/-
Arguments of the program: the settings file, a command, and the request file of the command. What
is wrong with them is one of a few kinds of fault; help and version count as such because they end
the program as well.
-/
namespace TenantSearch

inductive Command where
  /-- Prints the document of a request and sends no search. -/
  | compile
  /-- Runs the search of a request. -/
  | run
deriving DecidableEq

def Command.name : Command → String
  | .compile => "compile"
  | .run => "run"

def Command.ofName? (s : String) : Option Command :=
  if s = "compile" then some .compile else if s = "run" then some .run else none

structure Arguments where
  config : String
  command : Command
  request : String
deriving DecidableEq

/-- Why arguments do not start a command. -/
inductive UsageFault where
  | displayHelp
  | displayVersion
  | helpOnMissing
  | unknownArgument
  | invalidSubcommand
  | invalidValue
  | tooManyValues
  | argumentConflict
  | missingSubcommand
  | missingRequired
deriving DecidableEq

namespace UsageFault

def name : UsageFault → String
  | .displayHelp => "DisplayHelp"
  | .displayVersion => "DisplayVersion"
  | .helpOnMissing => "DisplayHelpOnMissingArgumentOrSubcommand"
  | .unknownArgument => "UnknownArgument"
  | .invalidSubcommand => "InvalidSubcommand"
  | .invalidValue => "InvalidValue"
  | .tooManyValues => "TooManyValues"
  | .argumentConflict => "ArgumentConflict"
  | .missingSubcommand => "MissingSubcommand"
  | .missingRequired => "MissingRequiredArgument"

/-- Help and version that were asked for end the program well. -/
def exitCode : UsageFault → UInt8
  | .displayHelp | .displayVersion => 0
  | _ => 2

end UsageFault

namespace Arguments

/-! ## Single arguments -/

/-- What one argument is, where an option with a value, help and perhaps version are known. -/
inductive Item where
  | option (attached : Option String)
  | help
  | version
  | valueOnFlag
  | unknown
  | dashes
  | word
deriving DecidableEq

/-- The option of a level by its short and its long name. -/
structure Level where
  short : Char
  long : String
  hasVersion : Bool

def top : Level := ⟨'c', "config", true⟩

def commandLevel : Level := ⟨'r', "request", false⟩

def classifyLong (l : Level) (body : List Char) : Item :=
  let name := String.ofList (body.takeWhile (· ≠ '='))
  let attached := match body.dropWhile (· ≠ '=') with
    | [] => none
    | value => some (String.ofList (value.drop 1))
  if name = l.long then .option attached
  else if name = "help" then (if attached.isSome then .valueOnFlag else .help)
  else if name = "version" && l.hasVersion then
    (if attached.isSome then .valueOnFlag else .version)
  else .unknown

def classifyShort (l : Level) (c : Char) (rest : List Char) : Item :=
  if c = l.short then
    match rest with
    | [] => .option none
    | '=' :: value => .option (some (String.ofList value))
    | value => .option (some (String.ofList value))
  else if c = 'h' then .help
  else if c = 'V' && l.hasVersion then .version
  else .unknown

def classify (l : Level) (arg : String) : Item :=
  match arg.toList with
  | ['-', '-'] => .dashes
  | '-' :: '-' :: body => classifyLong l body
  | '-' :: c :: rest => classifyShort l c rest
  | _ => .word

/-! ## Levels -/

/-- What has been read of the option of a level. An option that takes the next argument as its value
is pending until the arguments of the level, or another option, settle it. -/
structure Reading where
  value : Option String := none
  pending : Option (Option String) := none
deriving DecidableEq

/-- The value once nothing is pending: an option has a value, comes once, and its value is not
empty, in this order. -/
def Reading.settle : Reading → Except UsageFault (Option String)
  | ⟨value, none⟩ => .ok value
  | ⟨_, some none⟩ => .error .invalidValue
  | ⟨some _, some (some _)⟩ => .error .argumentConflict
  | ⟨none, some (some given)⟩ => if given = "" then .error .invalidValue else .ok (some given)

/-- Reads the options of a level up to the first word or two dashes; then what is read, whether
dashes ended it, and what follows. Unknown arguments are faults whatever is pending. -/
def scan (l : Level) (r : Reading) : List String → Except UsageFault (Reading × Bool × List String)
  | [] => .ok (r, false, [])
  | arg :: rest =>
    match classify l arg with
    | .word =>
      if r.pending = some none then scan l ⟨r.value, some (some arg)⟩ rest
      else .ok (r, false, arg :: rest)
    | .dashes => .ok (r, true, rest)
    | .help => r.settle >>= fun _ => .error .displayHelp
    | .version => r.settle >>= fun _ => .error .displayVersion
    | .valueOnFlag => .error .tooManyValues
    | .unknown => .error .unknownArgument
    | .option none => do
      let value ← r.settle
      scan l ⟨value, some none⟩ rest
    | .option (some attached) => do
      let value ← r.settle
      let value ← Reading.settle ⟨value, some (some attached)⟩
      scan l ⟨value, none⟩ rest

/-- The request file of a command. -/
def parseRequest (args : List String) : Except UsageFault String := do
  let (reading, _, rest) ← scan commandLevel {} args
  if rest.isEmpty then
    match ← reading.settle with
    | some request => .ok request
    | none => .error .missingRequired
  else .error .unknownArgument

/-- What the word `help` is answered with: one more word may name what the help is for. -/
def helpFault : List String → UsageFault
  | [] => .displayHelp
  | [name] => if (Command.ofName? name).isSome || name = "help" then .displayHelp
    else .invalidSubcommand
  | _ => .invalidSubcommand

/-- The arguments behind the name of the program. Faults behind the command come before those of
the option in front of it. -/
def parseWords (args : List String) : Except UsageFault Arguments := do
  let (reading, afterDashes, rest) ← scan top {} args
  match rest with
  | [] =>
    let config ← reading.settle
    .error (if config.isNone then .helpOnMissing else .missingSubcommand)
  | word :: rest =>
    match Command.ofName? word with
    | none =>
      if word ≠ "help" then .error .invalidSubcommand
      else .error (if afterDashes then .unknownArgument else helpFault rest)
    | some command =>
      if afterDashes then .error .unknownArgument
      else
        let request ← parseRequest rest
        match ← reading.settle with
        | some config => .ok ⟨config, command, request⟩
        | none => .error .missingRequired

/-- The arguments of a program, its own name first. -/
def parse (argv : List String) : Except UsageFault Arguments := parseWords (argv.drop 1)

end Arguments

end TenantSearch
