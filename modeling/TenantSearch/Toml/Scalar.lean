/-
Bare words of settings files: truth values, integers in four bases, floating-point numbers, and
dates and times. The form of a number is checked as the word is read; that a word of this form
stands for no number, because it is too great or holds other signs, is left to whoever looks at it.
-/
import TenantSearch.Text.Blank
import TenantSearch.Toml.Basic

namespace TenantSearch.Toml

/-! ## Digits -/

/-- The value of a digit in any base up to sixteen. -/
def digitValue (c : Char) : Nat :=
  if c.toNat < 58 then c.toNat - 48 else if c.toNat < 97 then c.toNat - 55 else c.toNat - 87

def isHexDigit (c : Char) : Bool :=
  Text.isAsciiDigit c || (97 ≤ c.toNat && c.toNat ≤ 102) || (65 ≤ c.toNat && c.toNat ≤ 70)

def isOctalDigit (c : Char) : Bool := '0' ≤ c && c ≤ '7'

def isBinaryDigit (c : Char) : Bool := c = '0' || c = '1'

def valueIn (base : Nat) (digits : List Char) : Nat :=
  digits.foldl (fun acc c => acc * base + digitValue c) 0

/-- A word without its underscores, each of which stands before a digit, and behind a digit or the
sign; `ready` tells whether one may come first. -/
def plain? (isDigit : Char → Bool) (ready : Bool) : List Char → Option (List Char)
  | [] => some []
  | '_' :: c :: rest => if ready && isDigit c then plain? isDigit false (c :: rest) else none
  | c :: rest => if c = '_' then none else (plain? isDigit (isDigit c) rest).map (c :: ·)

/-! ## Integers -/

/-- Integers have up to 128 bits. -/
def ofInt (i : Int) : Toml :=
  if -0x80000000000000000000000000000000 ≤ i ∧ i < 0x100000000000000000000000000000000 then .int i
  else .noNumber

/-- An integer behind the prefix of its base; without any digits it stands for none. -/
def basedInteger? (base : Nat) (isDigit : Char → Bool) (word : List Char) : Option Toml :=
  if word.all fun c => isDigit c || c = '_' then
    (plain? isDigit false word).map fun digits =>
      if digits.isEmpty then .noNumber else ofInt (valueIn base digits)
  else none

/-- A number with its sign. -/
def withSign (negative : Bool) (n : Nat) : Int := if negative then -n else n

/-- A decimal integer behind its sign, if it has one. It has no needless zero in front; behind an
underscore other signs may follow, and then it stands for none. -/
def decimalInteger? (signed negative : Bool) (word : List Char) : Option Toml :=
  if word.head? = some '0' && 1 < word.length then none
  else (plain? isHexDigit signed word).map fun digits =>
    if digits.all Text.isAsciiDigit then ofInt (withSign negative (valueIn 10 digits))
    else .noNumber

/-! ## Floating-point numbers -/

/-- The digits behind a point and what follows them. -/
def places? : List Char → Option (List Char × List Char)
  | '.' :: r =>
    match r.takeWhile Text.isAsciiDigit with
    | [] => none
    | digits => some (digits, r.dropWhile Text.isAsciiDigit)
  | r => some ([], r)

/-- The digits of an exponent, which end the number. -/
def exponentDigits? (negative : Bool) (digits : List Char) : Option Int :=
  if digits ≠ [] && digits.all Text.isAsciiDigit then some (withSign negative (valueIn 10 digits))
  else none

/-- An exponent that ends the number. -/
def exponent? : List Char → Option Int
  | [] => some 0
  | e :: r =>
    if e = 'e' || e = 'E' then
      match r with
      | '+' :: digits => exponentDigits? false digits
      | '-' :: digits => exponentDigits? true digits
      | digits => exponentDigits? false digits
    else none

/-- A number with a point or an exponent, behind its sign, if it has one. It has no needless zero in
front. -/
def decimalFloat? (signed negative : Bool) (word : List Char) : Option Toml := do
  let cs ← plain? Text.isAsciiDigit signed word
  let whole := cs.takeWhile Text.isAsciiDigit
  if whole = [] || (word.head? = some '0' && 1 < whole.length) then none
  else
    let (places, rest) ← places? (cs.dropWhile Text.isAsciiDigit)
    let e ← exponent? rest
    match Double.ofDecimal? negative (valueIn 10 (whole ++ places)) (e - places.length) with
    | some x => some (.float (.finite x))
    | none => some .noNumber

/-! ## Numbers -/

/-- Whether a decimal number has a point or an exponent. -/
def hasScale (word : List Char) : Bool := word.any fun c => c = '.' || c = 'e' || c = 'E'

/-- A decimal number behind its sign, if it has one. -/
def decimal? (signed negative : Bool) (word : List Char) : Option Toml :=
  if word = "inf".toList then some (.float (.infinite negative))
  else if word = "nan".toList then some (.float .nan)
  else if hasScale word then decimalFloat? signed negative word
  else
    match word.dropWhile Text.isAsciiDigit with
    | [] => if word = [] then none else decimalInteger? signed negative word
    | '_' :: _ => decimalInteger? signed negative word
    | _ => none

def number? : List Char → Option Toml
  | '0' :: 'x' :: word => basedInteger? 16 isHexDigit word
  | '0' :: 'o' :: word => basedInteger? 8 isOctalDigit word
  | '0' :: 'b' :: word => basedInteger? 2 isBinaryDigit word
  | '+' :: word => decimal? true false word
  | '-' :: word => decimal? true true word
  | word => decimal? false false word

/-! ## Dates and times -/

/-- A number of two digits up to a greatest value. -/
def twoDigits? (most : Nat) : List Char → Option (Nat × List Char)
  | a :: b :: rest =>
    let n := valueIn 10 [a, b]
    if Text.isAsciiDigit a && Text.isAsciiDigit b && n ≤ most then some (n, rest) else none
  | _ => none

/-- A day that the calendar has, in its text, and what follows it. -/
def day? : List Char → Option (List Char × List Char)
  | a :: b :: c :: d :: '-' :: r => do
    let (month, r') ← twoDigits? 12 r
    match r' with
    | '-' :: r'' => do
      let (day, rest) ← twoDigits? 31 r''
      let year := valueIn 10 [a, b, c, d]
      if [a, b, c, d].all Text.isAsciiDigit && 1 ≤ month && 1 ≤ day &&
          day ≤ Calendar.daysInMonth year month then
        some (a :: b :: c :: d :: '-' :: (r.take 2 ++ '-' :: r''.take 2), rest)
      else none
    | _ => none
  | _ => none

/-- The fraction of a second to nine places, without zeros at its end but with at least a digit. -/
def fractionText (digits : List Char) : List Char :=
  match ((digits.take 9).reverse.dropWhile (· = '0')).reverse with
  | [] => ['.', '0']
  | ds => '.' :: ds

/-- A fraction of a second, if there is one. -/
def fraction? : List Char → Option (List Char × List Char)
  | '.' :: r =>
    match r.takeWhile Text.isAsciiDigit with
    | [] => none
    | ds => some (fractionText ds, r.dropWhile Text.isAsciiDigit)
  | r => some ([], r)

/-- The seconds of a time, which may be left out. -/
def seconds? : List Char → Option (List Char × List Char)
  | ':' :: r => do
    let (_, rest) ← twoDigits? 60 r
    let (fraction, rest) ← fraction? rest
    some (':' :: r.take 2 ++ fraction, rest)
  | r => some ([], r)

/-- A time of the day in its text, and what follows it. -/
def time? (cs : List Char) : Option (List Char × List Char) := do
  let (_, r) ← twoDigits? 23 cs
  match r with
  | ':' :: r => do
    let (_, rest) ← twoDigits? 59 r
    let (seconds, rest) ← seconds? rest
    some (cs.take 2 ++ ':' :: r.take 2 ++ seconds, rest)
  | _ => none

/-- The offset that ends a time with a date, in its text. An offset of zero has the sign of a
positive one. -/
def offset? : List Char → Option (List Char)
  | [] => some []
  | [c] => if c = 'Z' || c = 'z' then some ['Z'] else none
  | sign :: r => do
    let (_, r') ← twoDigits? 23 r
    match r' with
    | ':' :: r'' => do
      let (_, rest) ← twoDigits? 59 r''
      let text := r.take 2 ++ ':' :: r''.take 2
      if rest ≠ [] then none
      else if sign = '+' || (sign = '-' && text = "00:00".toList) then some ('+' :: text)
      else if sign = '-' then some ('-' :: text)
      else none
    | _ => none

/-- A date, a time or both. -/
def date? (word : List Char) : Option String :=
  match day? word with
  | some (day, []) => some (String.ofList day)
  | some (day, c :: r) => do
    if c = 'T' || c = 't' || c = ' ' then
      let (time, rest) ← time? r
      let offset ← offset? rest
      some (String.ofList (day ++ 'T' :: time ++ offset))
    else none
  | none => do
    let (time, rest) ← time? word
    if rest = [] then some (String.ofList time) else none

/-! ## Words -/

/-- Whether a word has the form of a date or a time: a dash or a colon behind its first digits. -/
def isDated (word : List Char) : Bool :=
  word.head?.any Text.isAsciiDigit &&
    (word.dropWhile Text.isAsciiDigit).head?.any fun c => c = '-' || c = ':'

/-- The value of a bare word. -/
def scalar? (word : List Char) : Option Toml :=
  if word = "true".toList then some (.bool true)
  else if word = "false".toList then some (.bool false)
  else if isDated word then (date? word).map .date
  else number? word

/-- The signs that end a bare word. -/
def wordEnds : List Char := ['=', ',', '[', ']', '\x7b', '\x7d', ' ', '\t', '#', '\r', '\n']

def isWordChar (c : Char) : Bool := !wordEnds.contains c

/-- The bare word that a text starts with. A blank may stand between a date and its time. -/
def takeWord (s : List Char) : List Char × List Char :=
  let word := s.takeWhile isWordChar
  let rest := s.dropWhile isWordChar
  match day? word, rest with
  | some (_, []), ' ' :: c :: r =>
    if Text.isAsciiDigit c then
      (word ++ ' ' :: (c :: r).takeWhile isWordChar, (c :: r).dropWhile isWordChar)
    else (word, rest)
  | _, _ => (word, rest)

end TenantSearch.Toml
