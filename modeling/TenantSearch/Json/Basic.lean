/-
JSON values. Objects that are read or built member by member list their keys in increasing order
and none twice: `insertField` keeps it so, and a repeated key takes the last value. Numbers are
integers that fit 64 bits, signed or unsigned, and finite doubles.
-/
import TenantSearch.Number.Double

namespace TenantSearch

/-- An integer of 64 bits, signed or unsigned. -/
structure Integer where
  val : Int
  inRange : -0x8000000000000000 ≤ val ∧ val < 0x10000000000000000
deriving DecidableEq

namespace Integer

def ofInt? (i : Int) : Option Integer :=
  if h : -0x8000000000000000 ≤ i ∧ i < 0x10000000000000000 then some ⟨i, h⟩ else none

def ofUInt64 (n : UInt64) : Integer :=
  ⟨n.toNat, by have := n.toNat_lt; omega⟩

def ofUInt32 (n : UInt32) : Integer :=
  ⟨n.toNat, by have := n.toNat_lt; omega⟩

def ofInt64 (i : Int64) : Integer :=
  ⟨i.toInt, by have := i.le_toInt; have := i.toInt_lt; omega⟩

def toDouble (i : Integer) : Double := Double.ofInt i.val

end Integer

inductive Json where
  | null
  | bool (b : Bool)
  | int (i : Integer)
  | float (x : Double)
  | str (s : String)
  | arr (items : List Json)
  | obj (fields : List (String × Json))

namespace Json

instance : Inhabited Json := ⟨.null⟩

/-! ## Building -/

/-- The order of keys: by code point, which is the order of their UTF-8 octets. -/
def keyBefore : List Char → List Char → Bool
  | _, [] => false
  | [], _ :: _ => true
  | a :: as, b :: bs => a.toNat < b.toNat || (a == b && keyBefore as bs)

/-- Sets a member of a key-ordered list. -/
def insertField (key : String) (value : Json) : List (String × Json) → List (String × Json)
  | [] => [(key, value)]
  | (k, v) :: rest =>
    if key = k then (key, value) :: rest
    else if keyBefore key.toList k.toList then (key, value) :: (k, v) :: rest
    else (k, v) :: insertField key value rest

/-- The object with the given members; of equal keys the last one counts. -/
def object (fields : List (String × Json)) : Json :=
  .obj (fields.foldl (fun acc e => insertField e.1 e.2 acc) [])

def ofUInt64 (n : UInt64) : Json := .int (.ofUInt64 n)

def ofUInt32 (n : UInt32) : Json := .int (.ofUInt32 n)

def ofInt64 (i : Int64) : Json := .int (.ofInt64 i)

/-- A count; every list that fits a memory has a length of 64 bits. -/
def ofNat (n : Nat) : Json := .ofUInt64 n.toUInt64

def ofStrings (xs : List String) : Json := .arr (xs.map .str)

/-- A floating-point value; what is not finite is null. -/
def ofExtended : Extended → Json
  | .finite x => .float x
  | _ => .null

/-- An optional value, null when absent. -/
def ofOption (x : Option Json) : Json := x.getD .null

/-! ## Views -/

def isNull : Json → Bool
  | .null => true
  | _ => false

def asBool? : Json → Option Bool
  | .bool b => some b
  | _ => none

def asString? : Json → Option String
  | .str s => some s
  | _ => none

def asArray? : Json → Option (List Json)
  | .arr xs => some xs
  | _ => none

def asObject? : Json → Option (List (String × Json))
  | .obj fs => some fs
  | _ => none

/-- An integer that is not negative. -/
def asUInt64? : Json → Option UInt64
  | .int i => if 0 ≤ i.val then some i.val.toNat.toUInt64 else none
  | _ => none

/-- An integer that fits 64 signed bits. -/
def asInt64? : Json → Option Int64
  | .int i => if i.val < 0x8000000000000000 then some (Int64.ofInt i.val) else none
  | _ => none

/-- Any number as the nearest double. -/
def asDouble? : Json → Option Double
  | .int i => some i.toDouble
  | .float x => some x
  | _ => none

/-- The member of an object with a key. -/
def get? (v : Json) (key : String) : Option Json :=
  match v with
  | .obj fs => fs.lookup key
  | _ => none

/-! ## Equality of values -/

mutual

/-- Equality of values: integers by value, doubles as numbers, so the two zeros are equal; an
integer and a double always differ. -/
def same : Json → Json → Bool
  | .null, .null => true
  | .bool a, .bool b => a == b
  | .int a, .int b => a.val == b.val
  | .float a, .float b => a.value == b.value
  | .str a, .str b => a == b
  | .arr as, .arr bs => sameItems as bs
  | .obj as, .obj bs => sameFields as bs
  | _, _ => false
termination_by structural v => v

def sameItems : List Json → List Json → Bool
  | [], [] => true
  | a :: as, b :: bs => same a b && sameItems as bs
  | _, _ => false
termination_by structural v => v

def sameFields : List (String × Json) → List (String × Json) → Bool
  | [], [] => true
  | a :: as, (k, b) :: bs => sameField a k b && sameFields as bs
  | _, _ => false
termination_by structural v => v

def sameField : String × Json → String → Json → Bool
  | (k, a), k', b => k == k' && same a b
termination_by structural v => v

end

end Json

end TenantSearch
