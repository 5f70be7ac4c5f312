/-
Decimal text of doubles. Printing takes the decimal with the fewest digits inside the interval of
numbers that round to the value, of those the nearest; reading scales leading digits by one
rounded product or quotient with a power of ten, or rounds the exact decimal.
-/
import TenantSearch.Number.Double

namespace TenantSearch

/-! ## Reading -/

namespace Double

/-- The double nearest to a power of ten, for exponents up to 308. -/
def tenPow (n : Nat) : Double :=
  (ofRatio? false (Nat.pow 10 n) 1).getD default

/-- `x * 10 ^ e` by one product or quotient with a power of ten. Exponents below -308 divide by
`10 ^ 308` first, until nothing is left or the exponent fits. -/
def shiftDecimal (x : Double) (e : Int) : Nat → Option Double
  | 0 => some (.ofDyadic 0)
  | fuel + 1 =>
    if e.natAbs ≤ 308 then
      if 0 ≤ e then x.mul? (tenPow e.natAbs) else x.div? (tenPow e.natAbs)
    else if x.value = 0 then some x
    else if 0 ≤ e then none
    else (x.div? (tenPow 308)).bind fun y => y.shiftDecimal (e + 308) fuel

/-- The significand as a double, scaled by the power of ten. A 64-bit significand is used up by
four divisions. `none` when the result overflows. -/
def ofScientific? (negative : Bool) (significand : Nat) (e : Int) : Option Double :=
  ((ofInt significand).shiftDecimal e 5).map fun x => if negative then x.neg else x

/-- The double nearest to `± digits * 10 ^ e`; `none` when it overflows. Exponents far outside the
format are decided by the number of digits alone. -/
def ofDecimal? (negative : Bool) (digits : Nat) (e : Int) : Option Double :=
  let size : Int := (toString digits).length
  if digits = 0 ∨ e + size < -400 then some (signed negative 0)
  else if 400 < e + size then none
  else if 0 ≤ e then ofRatio? negative (digits * Nat.pow 10 e.toNat) 1
  else ofRatio? negative digits (Nat.pow 10 (-e).toNat)

/-! ## The shortest decimal -/

/-- A decimal `digits * 10 ^ exp`. -/
structure Decimal where
  digits : Nat
  exp : Int

/-- The numbers that round to a positive value: the ratios `lo / den` to `hi / den` around
`mid / den`, the ends included when the significand is even. -/
structure Interval where
  lo : Nat
  mid : Nat
  hi : Nat
  den : Nat
  closed : Bool

/-- The rounding interval of `num / den`, a positive value of the format. The gap below a power
of two is half the gap above it. -/
def roundingInterval (num den : Nat) : Interval :=
  let f := BinaryFormat.binary64
  let e := f.lastBit num den
  let (n, d) := BinaryFormat.scale num den e
  let m := n / d
  let lo := if m = Nat.pow 2 (f.precision - 1) ∧ f.minExp < e then 4 * m - 1 else 4 * m - 2
  let unit : Nat × Nat := BinaryFormat.scale 1 4 (-e)
  ⟨lo * unit.1, 4 * m * unit.1, (4 * m + 2) * unit.1, unit.2, m % 2 = 0⟩

/-- The multiple of `10 ^ k` nearest to the value, when it lies in the interval. -/
def Interval.onGrid? (i : Interval) (k : Int) : Option Nat :=
  let up := Nat.pow 10 (-k).toNat
  let d := i.den * Nat.pow 10 k.toNat
  let (lo, mid, hi) := (i.lo * up, i.mid * up, i.hi * up)
  let inside (c : Nat) : Bool :=
    if i.closed then lo ≤ c * d && c * d ≤ hi else lo < c * d && c * d < hi
  let below := mid / d
  let near := roundHalfEven mid d
  if near ≠ 0 ∧ inside near then some near
  else if below ≠ 0 ∧ inside below then some below
  else if inside (below + 1) then some (below + 1)
  else none

/-- Looks for a decimal on grids from `10 ^ k` downwards. -/
def Interval.search (i : Interval) (k : Int) : Nat → Decimal
  | 0 => ⟨0, 0⟩
  | fuel + 1 =>
    match i.onGrid? k with
    | some c => ⟨c, k⟩
    | none => i.search (k - 1) fuel

/-- The shortest decimal of a magnitude. The search starts above the value, and eighteen digits
more always suffice. -/
def shortest (magnitude : Dyadic) : Decimal :=
  let (num, den) := magnitudeRatio magnitude
  if num = 0 then ⟨0, 0⟩
  else
    let size : Int := (toString num).length
    let start : Int := size - (toString den).length + 1
    (roundingInterval num den).search start 24

end Double

/-! ## Text -/

/-- How a decimal is written: the first and last decimal exponent written with all places. -/
structure DecimalStyle where
  firstPlain : Int
  lastPlain : Int

/-- Numbers of JSON text show an exponent below `10 ^ -5` and from `10 ^ 16` on. -/
def DecimalStyle.json : DecimalStyle := ⟨-5, 15⟩

/-- Decimal digits without the zeros at their end. -/
def stripZeros (digits : List Char) : List Char :=
  (digits.reverse.dropWhile (· == '0')).reverse

/-- Digits with the point after the first `point` of them; the text always has a point. -/
def DecimalStyle.plain (digits : List Char) (point : Int) : List Char :=
  if point ≤ 0 then '0' :: '.' :: (List.replicate (-point).toNat '0' ++ digits)
  else
    let n := point.toNat
    if digits.length ≤ n then digits ++ List.replicate (n - digits.length) '0' ++ ['.', '0']
    else digits.take n ++ '.' :: digits.drop n

/-- The text of a decimal magnitude. -/
def DecimalStyle.render (style : DecimalStyle) (x : Double.Decimal) : String :=
  let all := (toString x.digits).toList
  if x.digits = 0 then "0.0"
  else
    let digits := stripZeros all
    let e : Int := x.exp + all.length - 1
    if style.firstPlain ≤ e ∧ e ≤ style.lastPlain then
      String.ofList (DecimalStyle.plain digits (e + 1))
    else
      let mantissa := match digits with
        | [] => []
        | [d] => [d]
        | d :: rest => d :: '.' :: rest
      let sign := if e < 0 then "-" else "+"
      String.ofList mantissa ++ "e" ++ sign ++ toString e.natAbs

/-- The shortest text that reads back as the same double; a negative zero keeps its sign. -/
def Double.text (x : Double) : String :=
  let magnitude := if x.isNegative then -x.value else x.value
  (if x.isNegative then "-" else "") ++ DecimalStyle.json.render (Double.shortest magnitude)

end TenantSearch
