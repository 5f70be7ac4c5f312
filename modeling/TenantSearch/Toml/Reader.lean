/-
Reading settings files. A text is a list of statements, one a line: the headers of tables and the
assignments of keys. Reading them in order grows the table of the file; one statement that cannot
be read or carried out refuses the whole text.
-/
import TenantSearch.Toml.Quoted

namespace TenantSearch.Toml

/-! ## Blanks and comments -/

def isBlank (c : Char) : Bool := c = ' ' || c = '\t'

def skipBlank (s : List Char) : List Char := s.dropWhile isBlank

/-- Skips blanks, line ends and comments. -/
def skipGaps (inComment : Bool) : List Char → Option (List Char)
  | [] => some []
  | c :: s =>
    if isLineEnd c then skipGaps false s
    else if inComment then (if isTextChar c then skipGaps true s else none)
    else if isBlank c then skipGaps false s
    else if c = '#' then skipGaps true s
    else some (c :: s)

/-- Reads what may stand behind a statement on its line. -/
def endLine (inComment : Bool) : List Char → Option (List Char)
  | [] => some []
  | c :: s =>
    if isLineEnd c then some (c :: s)
    else if inComment then (if isTextChar c then endLine true s else none)
    else if isBlank c then endLine false s
    else if c = '#' then endLine true s
    else none

/-! ## Keys -/

def isKeyChar (c : Char) : Bool :=
  Text.isAsciiDigit c || (97 ≤ c.toNat && c.toNat ≤ 122) || (65 ≤ c.toNat && c.toNat ≤ 90) ||
    c = '_' || c = '-'

/-- One part of a key, bare or quoted. -/
def readKeyPart (s : List Char) : Option (String × List Char) :=
  match s.takeWhile isKeyChar with
  | [] => (readShort s).map fun (text, rest) => (String.ofList text, rest)
  | bare => some (String.ofList bare, s.dropWhile isKeyChar)

/-- How many parts a key may have, and how many arrays and tables in braces may stand inside each
other. -/
def maxDepth : Nat := 80

/-- At most the given number of parts with dots between them: those before the last one, that one,
and what follows the blanks behind it. -/
def readParts : Nat → List Char → Option (List String × String × List Char)
  | 0, _ => none
  | most + 1, s => do
    let (part, rest) ← readKeyPart (skipBlank s)
    match skipBlank rest with
    | '.' :: rest => do
      let (path, key, rest) ← readParts most rest
      some (part :: path, key, rest)
    | rest => some ([], part, rest)

/-- A key with dots. -/
def readKey (s : List Char) : Option (List String × String × List Char) := readParts maxDepth s

/-! ## Values -/

mutual

/-- A value; `depth` is the number of arrays and tables that may still be opened. -/
def readValue : Nat → Nat → List Char → Option (Toml × List Char)
  | 0, _, _ => none
  | fuel + 1, depth, s =>
    match s with
    | [] => none
    | '[' :: r =>
      if depth = 0 then none
      else (readItems fuel (depth - 1) r).map fun (items, rest) => (.array items, rest)
    | '\x7b' :: r =>
      if depth = 0 then none
      else (readPairs fuel (depth - 1) [] r).map fun (entries, rest) =>
        (.table .inline entries, rest)
    | '"' :: _ | '\'' :: _ => (readText s).map fun (text, rest) => (.str (String.ofList text), rest)
    | _ =>
      let (word, rest) := takeWord s
      (scalar? word).map (·, rest)
termination_by structural fuel => fuel

/-- The items of an array up to its end. -/
def readItems : Nat → Nat → List Char → Option (List Toml × List Char)
  | 0, _, _ => none
  | fuel + 1, depth, s => do
    match ← skipGaps false s with
    | ']' :: rest => some ([], rest)
    | s => do
      let (v, rest) ← readValue fuel depth s
      match ← skipGaps false rest with
      | ',' :: rest => do
        let (items, rest) ← readItems fuel depth rest
        some (v :: items, rest)
      | ']' :: rest => some ([v], rest)
      | _ => none
termination_by structural fuel => fuel

/-- The entries of a table in braces up to its end, added to those read. Lines may end anywhere but
inside a key. -/
def readPairs : Nat → Nat → Entries → List Char → Option (Entries × List Char)
  | 0, _, _, _ => none
  | fuel + 1, depth, entries, s => do
    match ← skipGaps false s with
    | '\x7d' :: rest => some (entries, rest)
    | s => do
      let (path, key, rest) ← readKey s
      match ← skipGaps false rest with
      | '=' :: rest => do
        let (v, rest) ← readValue fuel depth (← skipGaps false rest)
        let (_, entries) ← assign path key v .inline entries
        match ← skipGaps false rest with
        | ',' :: rest => readPairs fuel depth entries rest
        | '\x7d' :: rest => some (entries, rest)
        | _ => none
      | _ => none
termination_by structural fuel => fuel

end

/-! ## Statements -/

inductive Statement where
  /-- The header of a table: the tables on the way to it, and its name. -/
  | define (path : List String) (key : String)
  /-- The header of one of several tables of a name. -/
  | start (path : List String) (key : String)
  | assign (path : List String) (key : String) (value : Toml)

/-- The statement that a text starts with. -/
def readStatement : List Char → Option (Statement × List Char)
  | '[' :: '[' :: s => do
    let (path, key, rest) ← readKey s
    match rest with
    | ']' :: ']' :: rest => some (.start path key, rest)
    | _ => none
  | '[' :: s => do
    let (path, key, rest) ← readKey s
    match rest with
    | ']' :: rest => some (.define path key, rest)
    | _ => none
  | s => do
    let (path, key, rest) ← readKey s
    match rest with
    | '=' :: rest => do
      let (v, rest) ← readValue rest.length maxDepth (skipBlank rest)
      some (.assign path key v, rest)
    | _ => none

/-- The statements of a text, by at most as many steps as characters. -/
def readStatements : Nat → List Char → Option (List Statement)
  | 0, _ => none
  | fuel + 1, s => do
    match ← skipGaps false s with
    | [] => some []
    | s => do
      let (statement, rest) ← readStatement s
      let rest ← endLine false rest
      let more ← readStatements fuel rest
      some (statement :: more)

/-- Carries out a statement on the table of the file; `here` is the path of the last header. -/
def Statement.apply (root : Entries) (here : List String) (statement : Statement) :
    Option (Entries × List String) :=
  let changed (path : List String)
      (change : TableOrigin → Entries → Option (TableOrigin × Entries)) : Option Entries :=
    (openPath false change path .header root).map Prod.snd
  match statement with
  | .define path key =>
    (changed path fun origin entries => (Toml.define key entries).map (origin, ·)).map
      (·, path ++ [key])
  | .start path key =>
    (changed path fun origin entries => (Toml.start key entries).map (origin, ·)).map
      (·, path ++ [key])
  | .assign path key v => (changed here (Toml.assign path key v)).map (·, here)

def build : List Statement → Entries → List String → Option Entries
  | [], root, _ => some root
  | statement :: rest, root, here => do
    let (root, here) ← statement.apply root here
    build rest root here

/-! ## Texts -/

/-- Whether every carriage return stands before a line feed. -/
def returnsPaired : List Char → Bool
  | [] => true
  | '\r' :: '\n' :: s => returnsPaired s
  | c :: s => c ≠ '\r' && returnsPaired s

/-- A byte-order mark may stand in front. -/
def skipMark : List Char → List Char
  | '\ufeff' :: s => s
  | s => s

/-- The table that a text denotes. -/
def ofText? (text : String) : Option Toml := do
  let s := skipMark text.toList
  if returnsPaired s then
    let statements ← readStatements (s.length + 1) s
    (build statements [] []).map (.table .header)
  else none

end TenantSearch.Toml
