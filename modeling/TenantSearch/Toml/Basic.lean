/-
Values of the notation of settings files, and the rules by which tables grow. A table remembers how
it came about, because that decides what may be added to it: a header defines a table once, a
dotted key grows only tables that no header defines, and a table in braces is never added to.
-/
import TenantSearch.Decode.Basic

namespace TenantSearch

/-- How a table came about: written in braces, named by a header, passed by a header on its way to
another table, or grown by a dotted key. -/
inductive TableOrigin where
  | inline
  | header
  | passed
  | dotted
deriving DecidableEq

inductive Toml where
  | str (s : String)
  | int (i : Int)
  | float (x : Extended)
  | bool (b : Bool)
  /-- A date, a time or both, in its plain text. -/
  | date (s : String)
  /-- A word in the form of a number that stands for none. It is a fault only where it is read. -/
  | noNumber
  | array (items : List Toml)
  /-- The tables of one name that double brackets start, the newest first. -/
  | tables (items : List Toml)
  | table (origin : TableOrigin) (entries : List (String × Toml))

namespace Toml

instance : Inhabited Toml := ⟨.bool false⟩

abbrev Entries := List (String × Toml)

/-! ## Growth of tables -/

/-- Sets, adds or refuses the value of a key. -/
def update (key : String) (change : Option Toml → Option Toml) : Entries → Option Entries
  | [] => (change none).map fun v => [(key, v)]
  | (k, v) :: rest =>
    if k = key then (change (some v)).map fun v => (k, v) :: rest
    else (update key change rest).map ((k, v) :: ·)

/-- Changes the table at the end of a path, making those on the way that are not there. Of several
tables of one name the newest is meant. -/
def openPath (byDots : Bool) (change : TableOrigin → Entries → Option (TableOrigin × Entries)) :
    List String → TableOrigin → Entries → Option (TableOrigin × Entries)
  | [], origin, entries => change origin entries
  | key :: path, origin, entries =>
    let inside (origin : TableOrigin) (entries : Entries) : Option Toml :=
      (openPath byDots change path origin entries).map fun (origin, entries) =>
        .table origin entries
    (update key (fun
      | none => inside (if byDots then .dotted else .passed) []
      | some (.table origin inner) =>
        if origin = .inline ∨ (byDots ∧ origin = .header) then none else inside origin inner
      | some (.tables (.table origin inner :: earlier)) =>
        (inside origin inner).map fun newest => .tables (newest :: earlier)
      | some _ => none) entries).map (origin, ·)

/-- Adds an entry whose key has dots. The table it goes into is the one at hand or one that only
dots or passing headers made, which it makes a table of dots; and it has no such entry. -/
def assign (path : List String) (key : String) (value : Toml) (origin : TableOrigin)
    (entries : Entries) : Option (TableOrigin × Entries) :=
  openPath true (fun origin entries =>
    if path ≠ [] ∧ (origin = .header ∨ origin = .inline) then none
    else (update key (fun
      | none => some value
      | some _ => none) entries).map (if path = [] then origin else .dotted, ·)) path origin entries

/-- Defines the table of a header, which no header and no dotted key has defined before. -/
def define (key : String) : Entries → Option Entries :=
  update key fun
    | none => some (.table .header [])
    | some (.table .passed entries) => some (.table .header entries)
    | some _ => none

/-- Starts another table of a name. -/
def start (key : String) : Entries → Option Entries :=
  update key fun
    | none => some (.tables [.table .header []])
    | some (.tables items) => some (.tables (.table .header [] :: items))
    | some _ => none

/-! ## Values as data -/

/-- The one key under which a date is found. -/
def dateKey : String := "$__toml_private_datetime"

def shape : Toml → Shape Toml
  | .str s => .text s
  | .int i => .int i
  | .float x => .float x
  | .bool b => .bool b
  | .date s => .record [(dateKey, .str s)]
  | .array items => .list items
  | .tables items => .list items.reverse
  | .table _ entries => .record entries
  | .noNumber => .void

mutual

/-- The same value as JSON. Integers of more than 64 bits have none, nor has a word that stands for
no number; what is not finite is null. -/
def toJson? : Toml → Option Json
  | .str s => some (.str s)
  | .int i => (Integer.ofInt? i).map .int
  | .float x => some (.ofExtended x)
  | .bool b => some (.bool b)
  | .date s => some (.obj [(dateKey, .str s)])
  | .array items => (itemsToJson? items).map .arr
  | .tables items => (itemsToJson? items).map fun xs => .arr xs.reverse
  | .table _ entries => (entriesToJson? entries).map .object
  | .noNumber => none
termination_by structural v => v

def itemsToJson? : List Toml → Option (List Json)
  | [] => some []
  | v :: rest => do
    let x ← toJson? v
    let xs ← itemsToJson? rest
    some (x :: xs)
termination_by structural v => v

def entriesToJson? : List (String × Toml) → Option (List (String × Json))
  | [] => some []
  | e :: rest => do
    let x ← entryToJson? e
    let xs ← entriesToJson? rest
    some (x :: xs)
termination_by structural v => v

def entryToJson? : String × Toml → Option (String × Json)
  | (key, v) => (toJson? v).map fun x => (key, x)
termination_by structural v => v

end

mutual

/-- Whether every word in the form of a number stands for one. -/
def isSound : Toml → Bool
  | .noNumber => false
  | .array items => areSound items
  | .tables items => areSound items
  | .table _ entries => entriesAreSound entries
  | .str _ | .int _ | .float _ | .bool _ | .date _ => true
termination_by structural v => v

def areSound : List Toml → Bool
  | [] => true
  | v :: rest => isSound v && areSound rest
termination_by structural v => v

def entriesAreSound : List (String × Toml) → Bool
  | [] => true
  | e :: rest => entryIsSound e && entriesAreSound rest
termination_by structural v => v

def entryIsSound : String × Toml → Bool
  | (_, v) => isSound v
termination_by structural v => v

end

instance : Readable Toml := ⟨shape, toJson?, isSound, true⟩

end Toml

end TenantSearch
