/-
Decoding of values into typed data. A decoder looks at one value of some notation and either gives
the data or the first fault it meets; a record of fields is decoded from the members of an object,
in key order, or from a list by position. Keys that no field has are skipped; they matter only in
notations whose values can be unsound.
-/
import TenantSearch.Json.Reader
import TenantSearch.Text.Printable
import TenantSearch.Time.Timestamp

namespace TenantSearch

/-! ## Values of a notation -/

/-- A value, one level deep. -/
inductive Shape (α : Type) where
  | null
  | bool (b : Bool)
  | int (i : Int)
  | float (x : Extended)
  | text (s : String)
  | list (items : List α)
  | record (fields : List (String × α))
  /-- What stands for no value, so that nothing decodes from it. -/
  | void

/-- Values that can be decoded. -/
class Readable (α : Type) where
  shape : α → Shape α
  /-- The same value as JSON, if there is one. -/
  toJson? : α → Option Json
  /-- Whether a value may stand under a key that no field has. -/
  isSound : α → Bool
  /-- Whether a list that stands for a record may be longer than it. -/
  allowsSurplus : Bool

def Json.shape : Json → Shape Json
  | .null => .null
  | .bool b => .bool b
  | .int i => .int i.val
  | .float x => .float (.finite x)
  | .str s => .text s
  | .arr items => .list items
  | .obj fields => .record fields

instance : Readable Json := ⟨Json.shape, some, fun _ => true, false⟩

/-! ## Faults -/

/-- What was found in place of the data. -/
inductive Found where
  | null
  | bool (b : Bool)
  | int (i : Int)
  | float (x : Extended)
  | text (s : String)
  | list
  | record
  | void
deriving DecidableEq

def Shape.found {α : Type} : Shape α → Found
  | .null => .null
  | .bool b => .bool b
  | .int i => .int i
  | .float x => .float x
  | .text s => .text s
  | .list _ => .list
  | .record _ => .record
  | .void => .void

def Extended.text : Extended → String
  | .finite x => x.text
  | .infinite true => "-inf"
  | .infinite false => "inf"
  | .nan => "NaN"

def Found.describe : Found → String
  | .null => "null"
  | .bool b => "boolean `" ++ (if b then "true" else "false") ++ "`"
  | .int i => "integer `" ++ toString i ++ "`"
  | .float x => "floating point `" ++ x.text ++ "`"
  | .text s => "string " ++ Text.shown s
  | .list => "sequence"
  | .record => "map"
  | .void => "no value"

/-- A name that is none of those a setting takes. -/
inductive Unsupported where
  | searchLevel (name : String)
  | vectorBackend (name : String)
deriving DecidableEq

def Unsupported.message : Unsupported → String
  | .searchLevel name => "Unsupported search level '" ++ name ++ "'."
  | .vectorBackend name => "Unsupported vector backend '" ++ name ++ "'."

/-- Why a value does not decode. -/
inductive DecodeError where
  | wrongKind (found : Found) (expected : String)
  | outOfRange (found : Found) (expected : String)
  | wrongLength (length : Nat) (expected : String)
  | missingField (name : String)
  | unknownName (name : String) (known : List String)
  | keyNotNumber
  | badKey (cause : Json.ReadError)
  | keyMisfit (cause : DecodeError) (column : Nat)
  | unsupported (cause : Unsupported)
  | badDate (cause : Timestamp.ReadError)
  | notJson (key : String)
  | unsound (key : String)
deriving DecidableEq

/-- Names between backticks, as a choice. -/
def choiceText : List String → String
  | [] => "there are no variants"
  | [a] => "`" ++ a ++ "`"
  | [a, b] => "`" ++ a ++ "` or `" ++ b ++ "`"
  | names => "one of " ++ ", ".intercalate (names.map fun n => "`" ++ n ++ "`")

def DecodeError.message : DecodeError → String
  | .wrongKind found expected => "invalid type: " ++ found.describe ++ ", expected " ++ expected
  | .outOfRange found expected => "invalid value: " ++ found.describe ++ ", expected " ++ expected
  | .wrongLength n expected => "invalid length " ++ toString n ++ ", expected " ++ expected
  | .missingField name => "missing field `" ++ name ++ "`"
  | .unknownName name known =>
    "unknown variant `" ++ name ++ "`, expected " ++ choiceText known
  | .keyNotNumber => "invalid value: expected key to be a number in quotes"
  | .badKey cause => cause.message
  | .keyMisfit cause column => cause.message ++ " at line 1 column " ++ toString column
  | .unsupported cause => "Invalid argument: " ++ cause.message
  | .badDate cause => cause.message
  | .notJson key => "the value of `" ++ key ++ "` has no JSON form"
  | .unsound key => "the value of `" ++ key ++ "` is not sound"

namespace Decode

variable {α β : Type} [Readable α]

/-- Refuses a value for what it is. -/
def refuse (v : α) (expected : String) : Except DecodeError β :=
  .error (.wrongKind (Readable.shape v).found expected)

/-! ## Plain data -/

def bool (v : α) : Except DecodeError Bool :=
  match Readable.shape v with
  | .bool b => .ok b
  | _ => refuse v "a boolean"

def text (v : α) : Except DecodeError String :=
  match Readable.shape v with
  | .text s => .ok s
  | _ => refuse v "a string"

/-- An integer from `lo` up to, not including, `hi`. -/
def integer (lo hi : Int) (expected : String) (v : α) : Except DecodeError Int :=
  match Readable.shape v with
  | .int i => if lo ≤ i ∧ i < hi then .ok i else .error (.outOfRange (.int i) expected)
  | _ => refuse v expected

def uint64 (v : α) : Except DecodeError UInt64 :=
  (integer 0 0x10000000000000000 "u64" v).map fun i => i.toNat.toUInt64

def uint32 (v : α) : Except DecodeError UInt32 :=
  (integer 0 0x100000000 "u32" v).map fun i => i.toNat.toUInt32

def int64 (v : α) : Except DecodeError Int64 :=
  (integer (-0x8000000000000000) 0x8000000000000000 "i64" v).map Int64.ofInt

/-- A number rounded to the 32-bit format, which may make it infinite. -/
def single (v : α) : Except DecodeError Extended :=
  match Readable.shape v with
  | .int i =>
    if (Integer.ofInt? i).isSome then .ok (.singleOfInt i) else refuse v "f32"
  | .float x => .ok x.toSingle
  | _ => refuse v "f32"

/-- Null is absence. -/
def optional (decode : α → Except DecodeError β) (v : α) : Except DecodeError (Option β) :=
  match Readable.shape v with
  | .null => .ok none
  | _ => (decode v).map some

def list (decode : α → Except DecodeError β) (v : α) : Except DecodeError (List β) :=
  match Readable.shape v with
  | .list items => items.mapM decode
  | _ => refuse v "a sequence"

/-- Members of any keys, as they are. -/
def members (v : α) : Except DecodeError (List (String × Json)) :=
  match Readable.shape v with
  | .record fields =>
    fields.foldlM (fun acc e =>
      match Readable.toJson? e.2 with
      | some x => .ok (Json.insertField e.1 x acc)
      | none => .error (.notJson e.1)) []
  | _ => refuse v "a map"

/-- One of several names, alone or as the only key over null. -/
def name (known : List (String × β)) (v : α) : Except DecodeError β :=
  let find (s : String) : Except DecodeError β :=
    match known.lookup s with
    | some x => .ok x
    | none => .error (.unknownName s (known.map Prod.fst))
  match Readable.shape v with
  | .text s => find s
  | .record [(s, inner)] => do
    let x ← find s
    match Readable.shape inner with
    | .null => .ok x
    | _ => refuse inner "unit"
  | .record _ => .error (.outOfRange .record "map with a single key")
  | _ => refuse v "string or map"

def timestamp (v : α) : Except DecodeError Timestamp :=
  match Readable.shape v with
  | .text s => (Timestamp.ofText s).mapError .badDate
  | _ => refuse v "an RFC3339-formatted `OffsetDateTime`"

/-! ## Keys that are numbers -/

/-- An unsigned number of 64 bits in the digits of JSON. -/
def numericKey (key : String) : Except DecodeError UInt64 :=
  let s := Octets.ofString key
  match s with
  | [] => .error .keyNotNumber
  | b :: rest =>
    if b = 45 ∨ Octets.isDigit b then
      match Json.Reader.readNumber (b = 45) (if b = 45 then rest else s) with
      | .error e => .error (.badKey (.at e.fault s e.left))
      | .ok (v, rest) => do
        let n ← (uint64 v).mapError (.keyMisfit · (s.length - rest.length))
        if rest = [] then .ok n else .error .keyNotNumber
    else .error .keyNotNumber

/-- Sets an entry of a list in numeric order. -/
def insertNumeric (key : UInt64) (value : β) : List (UInt64 × β) → List (UInt64 × β)
  | [] => [(key, value)]
  | (k, v) :: rest =>
    if key = k then (key, value) :: rest
    else if key < k then (key, value) :: (k, v) :: rest
    else (k, v) :: insertNumeric key value rest

/-- Members whose keys are numbers, in numeric order. -/
def numericMembers (decode : α → Except DecodeError β) (v : α) :
    Except DecodeError (List (UInt64 × β)) :=
  match Readable.shape v with
  | .record fields =>
    fields.foldlM (fun acc e => do
      let key ← numericKey e.1
      let value ← decode e.2
      .ok (insertNumeric key value acc)) []
  | _ => refuse v "a map"

/-! ## Records -/

/-- When a field may be left out: never, only in an object, or also at the end of a list. -/
inductive Presence where
  | required
  | nullable
  | defaulted
deriving DecidableEq

/-- A field of a record of type `σ`: its key, and how a value of it is stored. -/
structure Field (α σ : Type) where
  key : String
  presence : Presence
  store : α → σ → Except DecodeError σ

/-- A field from a decoder and a setter. -/
def field {σ : Type} (key : String) (presence : Presence) (decode : α → Except DecodeError β)
    (set : β → σ → σ) : Field α σ :=
  ⟨key, presence, fun v st => (decode v).map fun x => set x st⟩

variable {σ : Type}

/-- Stores the members that have a field, one after the other. The others are passed over. -/
def storeMembers (fields : List (Field α σ)) : List (String × α) → σ → Except DecodeError σ
  | [], st => .ok st
  | (key, v) :: rest, st =>
    match fields.find? (fun f => f.key == key) with
    | some f => do
      let st ← f.store v st
      storeMembers fields rest st
    | none => if Readable.isSound v then storeMembers fields rest st else .error (.unsound key)

/-- The first required field that no member has. -/
def missing? (fields : List (Field α σ)) (members : List (String × α)) : Option String :=
  (fields.find? fun f => f.presence == .required && !members.any fun m => m.1 == f.key).map
    Field.key

def elementsText (name : String) (n : Nat) : String :=
  "struct " ++ name ++ " with " ++ toString n ++ (if n = 1 then " element" else " elements")

/-- Stores the items of a list by position; `index` fields have been stored. -/
def storeItems (name : String) (size : Nat) : List (Field α σ) → List α → Nat → σ →
    Except DecodeError σ
  | [], extra, index, st =>
    if extra.isEmpty || Readable.allowsSurplus α then .ok st
    else .error (.wrongLength (index + extra.length) "fewer elements in array")
  | f :: fields, [], index, st =>
    if f.presence = .defaulted then storeItems name size fields [] (index + 1) st
    else .error (.wrongLength index (elementsText name size))
  | f :: fields, v :: items, index, st => do
    let st ← f.store v st
    storeItems name size fields items (index + 1) st

/-- A record, starting from one with every field left out. -/
def record (name : String) (fields : List (Field α σ)) (start : σ) (v : α) :
    Except DecodeError σ :=
  match Readable.shape v with
  | .record members => do
    let st ← storeMembers fields members start
    match missing? fields members with
    | some key => .error (.missingField key)
    | none => .ok st
  | .list items => storeItems name fields.length fields items 0 start
  | _ => refuse v ("struct " ++ name)

end Decode

end TenantSearch
