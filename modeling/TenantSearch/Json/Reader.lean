/-
Reading JSON text. The reader takes one octet after the other and stops at the first fault, which
it reports with the line and the column where the text can no longer be a document. A list or an
object may stand inside at most 127 others. Numbers that are integers of 64 bits stay integers; any
other number becomes a double, out of as many leading digits as fit 64 bits.
-/
import TenantSearch.Json.Basic
import TenantSearch.Number.Shortest
import TenantSearch.Text.Octets

namespace TenantSearch.Json

/-! ## Faults -/

/-- What can be wrong with a text. -/
inductive Fault where
  | endInList
  | endInObject
  | endInString
  | endInValue
  | noColon
  | noListEnd
  | noObjectEnd
  | badWord
  | noValue
  | badEscape
  | badNumber
  | numberOutOfRange
  | badCodePoint
  | controlCharacter
  | keyNotString
  | loneSurrogate
  | halfSurrogate
  | trailingComma
  | trailingText
  | tooDeep
deriving DecidableEq

def Fault.message : Fault → String
  | .endInList => "EOF while parsing a list"
  | .endInObject => "EOF while parsing an object"
  | .endInString => "EOF while parsing a string"
  | .endInValue => "EOF while parsing a value"
  | .noColon => "expected `:`"
  | .noListEnd => "expected `,` or `]`"
  | .noObjectEnd => "expected `,` or `\x7d`"
  | .badWord => "expected ident"
  | .noValue => "expected value"
  | .badEscape => "invalid escape"
  | .badNumber => "invalid number"
  | .numberOutOfRange => "number out of range"
  | .badCodePoint => "invalid unicode code point"
  | .controlCharacter => "control character (\\u0000-\\u001F) found while parsing a string"
  | .keyNotString => "key must be a string"
  | .loneSurrogate => "lone leading surrogate in hex escape"
  | .halfSurrogate => "unexpected end of hex escape"
  | .trailingComma => "trailing comma"
  | .trailingText => "trailing characters"
  | .tooDeep => "recursion limit exceeded"

/-- A fault and where it was found: lines from one, columns in octets. -/
structure ReadError where
  fault : Fault
  line : Nat
  column : Nat
deriving DecidableEq

def ReadError.message (e : ReadError) : String :=
  e.fault.message ++ " at line " ++ toString e.line ++ " column " ++ toString e.column

namespace Reader

/-- A fault with the number of octets left behind it. What is read without a fault comes with the
octets after it. -/
structure Stop where
  fault : Fault
  left : Nat

/-- Stops before the given octets. -/
def stop {α : Type} (fault : Fault) (rest : Octets) : Except Stop α :=
  .error ⟨fault, rest.length⟩

/-- Stops behind the next octet, which is at fault. -/
def stopAt {α : Type} (fault : Fault) (rest : Octets) : Except Stop α :=
  .error ⟨fault, rest.length - 1⟩

def isBlank (b : UInt8) : Bool := b == 32 || b == 10 || b == 9 || b == 13

def skipBlank (s : Octets) : Octets := s.dropWhile isBlank

/-- Reads the rest of a word whose first letter has been read. -/
def readWord (value : Json) : List UInt8 → Octets → Except Stop (Json × Octets)
  | [], s => .ok (value, s)
  | _ :: _, [] => stop .endInValue []
  | e :: es, b :: s => if b = e then readWord value es s else stop .badWord s

/-! ## Numbers -/

/-- Adds digits to a significand while it fits 64 bits; tells how many were added. -/
def takeSignificand (acc : Nat) : Octets → Nat × Nat × Octets
  | [] => (acc, 0, [])
  | b :: s =>
    if Octets.isDigit b && acc * 10 + Octets.digit b < 0x10000000000000000 then
      let (total, n, rest) := takeSignificand (acc * 10 + Octets.digit b) s
      (total, n + 1, rest)
    else (acc, 0, b :: s)

def startsWithDigit : Octets → Bool
  | b :: _ => Octets.isDigit b
  | [] => false

/-- A double from a significand and a power of ten. -/
def scaled (negative : Bool) (significand : Nat) (e : Int) (s : Octets) :
    Except Stop (Json × Octets) :=
  match Double.ofScientific? negative significand e with
  | some x => .ok (.float x, s)
  | none => stop .numberOutOfRange s

/-- Adds the digits of an exponent, which must fit 32 bits; else gives what follows the digit that
made it too great. -/
def takeExponent (acc : Nat) : Octets → Except Octets (Nat × Octets)
  | [] => .ok (acc, [])
  | b :: s =>
    if Octets.isDigit b then
      if acc * 10 + Octets.digit b < 0x80000000 then takeExponent (acc * 10 + Octets.digit b) s
      else .error s
    else .ok (acc, b :: s)

/-- The exponent of a number, behind its letter. -/
def readExponent (negative : Bool) (significand : Nat) (e : Int) (s : Octets) :
    Except Stop (Json × Octets) :=
  let (down, s) := match s with
    | 43 :: r => (false, r)
    | 45 :: r => (true, r)
    | r => (false, r)
  match s with
  | [] => stop .endInValue []
  | b :: s =>
    if Octets.isDigit b then
      match takeExponent (Octets.digit b) s with
      | .ok (n, rest) => scaled negative significand (if down then e - n else e + n) rest
      | .error rest =>
        if significand ≠ 0 ∧ down = false then stop .numberOutOfRange rest
        else .ok (.float (.signed negative 0), rest.dropWhile Octets.isDigit)
    else stop .badNumber s

/-- An exponent, or the end of a number. -/
def readScale (negative : Bool) (significand : Nat) (e : Int) : Octets → Except Stop (Json × Octets)
  | 101 :: s => readExponent negative significand e s
  | 69 :: s => readExponent negative significand e s
  | s => scaled negative significand e s

/-- The decimal places of a number, behind its point. Digits that no longer fit are dropped. -/
def readPlaces (negative : Bool) (significand : Nat) (e : Int) (s : Octets) :
    Except Stop (Json × Octets) :=
  let (significand, n, rest) := takeSignificand significand s
  if startsWithDigit rest then
    readScale negative significand (e - n) (rest.dropWhile Octets.isDigit)
  else if n = 0 then
    match rest with
    | [] => stop .endInValue []
    | rest => stopAt .badNumber rest
  else readScale negative significand (e - n) rest

/-- A number with the digits before its point read: an integer if it ends here and fits. -/
def readTail (negative : Bool) (significand : Nat) : Octets → Except Stop (Json × Octets)
  | 46 :: s => readPlaces negative significand 0 s
  | 101 :: s => readExponent negative significand 0 s
  | 69 :: s => readExponent negative significand 0 s
  | s =>
    if negative then
      if significand = 0 then .ok (.float .negZero, s)
      else match Integer.ofInt? (-significand) with
        | some i => .ok (.int i, s)
        | none => .ok (.float (Double.ofInt significand).neg, s)
    else match Integer.ofInt? significand with
      | some i => .ok (.int i, s)
      | none => .ok (.float (Double.ofInt significand), s)

/-- A number behind its sign. -/
def readNumber (negative : Bool) : Octets → Except Stop (Json × Octets)
  | [] => stop .endInValue []
  | b :: s =>
    if b = 48 then
      if startsWithDigit s then stopAt .badNumber s else readTail negative 0 s
    else if Octets.isDigit b then
      let (significand, _, rest) := takeSignificand (Octets.digit b) s
      if startsWithDigit rest then
        let extra : Int := (rest.takeWhile Octets.isDigit).length
        match rest.dropWhile Octets.isDigit with
        | 46 :: r => readPlaces negative significand extra r
        | r => readScale negative significand extra r
      else readTail negative significand rest
    else stop .badNumber s

/-! ## Strings -/

/-- Four hexadecimal digits. -/
def readHex : Octets → Except Stop (Nat × Octets)
  | a :: b :: c :: d :: s =>
    match Octets.hexDigit? a, Octets.hexDigit? b, Octets.hexDigit? c, Octets.hexDigit? d with
    | some a, some b, some c, some d => .ok (a * 4096 + b * 256 + c * 16 + d, s)
    | _, _, _, _ => stop .badEscape s
  | _ => stop .endInString []

def utf8 (code : Nat) : Octets := Octets.ofString (String.singleton (Char.ofNat code))

/-- The second half of a surrogate pair. -/
def readLowSurrogate (high : Nat) : Octets → Except Stop (Octets × Octets)
  | [] => stop .endInString []
  | 92 :: [] => stop .endInString []
  | 92 :: 117 :: s => do
    let (low, s) ← readHex s
    if low < 0xDC00 ∨ 0xDFFF < low then stop .loneSurrogate s
    else .ok (utf8 ((high - 0xD800) * 1024 + (low - 0xDC00) + 0x10000), s)
  | 92 :: _ :: s => stop .halfSurrogate s
  | _ :: s => stop .halfSurrogate s

/-- An escape behind its backslash. -/
def readEscape : Octets → Except Stop (Octets × Octets)
  | [] => stop .endInString []
  | b :: s =>
    if b = 34 ∨ b = 92 ∨ b = 47 then .ok ([b], s)
    else if b = 98 then .ok ([8], s)
    else if b = 102 then .ok ([12], s)
    else if b = 110 then .ok ([10], s)
    else if b = 114 then .ok ([13], s)
    else if b = 116 then .ok ([9], s)
    else if b = 117 then do
      let (code, s) ← readHex s
      if 0xDC00 ≤ code ∧ code ≤ 0xDFFF then stop .loneSurrogate s
      else if 0xD800 ≤ code ∧ code ≤ 0xDBFF then readLowSurrogate code s
      else .ok (utf8 code, s)
    else stop .badEscape s

/-- The octets of a string up to its closing quote, by at most as many steps as octets. -/
def readQuoted : Nat → Octets → Except Stop (Octets × Octets)
  | 0, _ => stop .endInString []
  | _ + 1, [] => stop .endInString []
  | fuel + 1, b :: s =>
    if b = 34 then .ok ([], s)
    else if b = 92 then do
      let (octets, s) ← readEscape s
      let (more, s) ← readQuoted fuel s
      .ok (octets ++ more, s)
    else if b < 32 then stop .controlCharacter s
    else do
      let (more, s) ← readQuoted fuel s
      .ok (b :: more, s)

/-- A string behind its opening quote. Octets that are not UTF-8 are at fault once the closing quote
has been found. The place is counted back from there by the octets that the string stands for, so
escapes behind the fault move it on. -/
def readString (s : Octets) : Except Stop (String × Octets) := do
  let (octets, rest) ← readQuoted s.length s
  match Octets.toString? octets with
  | some text => .ok (text, rest)
  | none => .error ⟨.badCodePoint, rest.length + (octets.length - Octets.validLength octets)⟩

/-! ## Values -/

mutual

/-- A value. `depth` is the number of lists and objects that may still be opened; entering the
last of them is a fault. -/
def readValue : Nat → Nat → Octets → Except Stop (Json × Octets)
  | 0, _, _ => stop .endInValue []
  | fuel + 1, depth, s =>
    match skipBlank s with
    | [] => stop .endInValue []
    | b :: r =>
      if b = 110 then readWord .null [117, 108, 108] r
      else if b = 116 then readWord (.bool true) [114, 117, 101] r
      else if b = 102 then readWord (.bool false) [97, 108, 115, 101] r
      else if b = 45 then readNumber true r
      else if Octets.isDigit b then readNumber false (b :: r)
      else if b = 34 then do
        let (text, r) ← readString r
        .ok (.str text, r)
      else if b = 91 then
        if depth ≤ 1 then stop .tooDeep r
        else do
          let (items, r) ← readItems fuel (depth - 1) true r
          .ok (.arr items, r)
      else if b = 123 then
        if depth ≤ 1 then stop .tooDeep r
        else do
          let (fields, r) ← readFields fuel (depth - 1) true r
          .ok (object fields, r)
      else stop .noValue r

/-- The items of a list up to its closing bracket. -/
def readItems : Nat → Nat → Bool → Octets → Except Stop (List Json × Octets)
  | 0, _, _, _ => stop .endInList []
  | fuel + 1, depth, first, s =>
    match skipBlank s with
    | [] => stop .endInList []
    | b :: r =>
      if b = 93 then .ok ([], r)
      else if first then do
        let (v, r) ← readValue fuel depth (b :: r)
        let (more, r) ← readItems fuel depth false r
        .ok (v :: more, r)
      else if b = 44 then
        match skipBlank r with
        | [] => stop .endInValue []
        | 93 :: r => stop .trailingComma r
        | r => do
          let (v, r) ← readValue fuel depth r
          let (more, r) ← readItems fuel depth false r
          .ok (v :: more, r)
      else stop .noListEnd r

/-- The members of an object up to its closing brace, in the order of the text. -/
def readFields : Nat → Nat → Bool → Octets → Except Stop (List (String × Json) × Octets)
  | 0, _, _, _ => stop .endInObject []
  | fuel + 1, depth, first, s =>
    match skipBlank s with
    | [] => stop .endInObject []
    | b :: r =>
      if b = 125 then .ok ([], r)
      else if first then
        if b = 34 then readField fuel depth r else stop .keyNotString r
      else if b = 44 then
        match skipBlank r with
        | [] => stop .endInValue []
        | 34 :: r => readField fuel depth r
        | 125 :: r => stop .trailingComma r
        | _ :: r => stop .keyNotString r
      else stop .noObjectEnd r

/-- A member behind the opening quote of its key, and the members after it. -/
def readField : Nat → Nat → Octets → Except Stop (List (String × Json) × Octets)
  | 0, _, _ => stop .endInObject []
  | fuel + 1, depth, s => do
    let (key, r) ← readString s
    match skipBlank r with
    | [] => stop .endInObject []
    | 58 :: r => do
      let (v, r) ← readValue fuel depth r
      let (more, r) ← readFields fuel depth false r
      .ok ((key, v) :: more, r)
    | _ :: r => stop .noColon r

end

/-- How many lists and objects may be opened inside each other, and the one too many. -/
def depthLimit : Nat := 128

/-- A whole document: a value with nothing but blanks around it. -/
def readDocument (s : Octets) : Except Stop Json := do
  let (v, rest) ← readValue (3 * s.length + 3) depthLimit s
  match skipBlank rest with
  | [] => .ok v
  | _ :: rest => stop .trailingText rest

end Reader

/-- The place where the given number of octets are left. -/
def ReadError.at (fault : Fault) (s : Octets) (left : Nat) : ReadError :=
  let before := s.take (s.length - left)
  ⟨fault, before.count 10 + 1, (before.reverse.takeWhile (· ≠ 10)).length⟩

/-- The value that a text denotes. -/
def ofOctets (s : Octets) : Except ReadError Json :=
  match Reader.readDocument s with
  | .ok v => .ok v
  | .error e => .error (.at e.fault s e.left)

def ofText (s : String) : Except ReadError Json := ofOctets (Octets.ofString s)

end TenantSearch.Json
