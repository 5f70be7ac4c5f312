/-
The command line. It reads the two files that the arguments name, runs the program on them and
prints its report. This build has no network, so the other side never answers.
-/
import TenantSearch.CommandLine.Program

namespace TenantSearch

def readOctets (path : String) : IO (Option Octets) := do
  try
    let bytes ← IO.FS.readBinFile path
    return some bytes.toList
  catch _ => return none

def runArguments (a : Arguments) : IO UInt32 := do
  let config ← readOctets a.config
  let request ← readOctets a.request
  let files (path : String) : Option Octets := if path = a.config then config else request
  let report := Program.execute a files fun _ => none
  match report.result with
  | .ok text => IO.print text
  | .error failure => IO.eprintln ("Error: " ++ ": ".intercalate (Program.Failure.messages failure))
  return report.exitCode.toUInt32

end TenantSearch

open TenantSearch in
def main (args : List String) : IO UInt32 := do
  match Arguments.parseWords args with
  | .ok a => runArguments a
  | .error .displayVersion => do
    IO.println Program.version
    return 0
  | .error fault => do
    IO.eprintln fault.name
    return fault.exitCode.toUInt32
