import Toolpath.CommandLine.Run

/-!
# The program

Reads the files that an invocation names, has the program compiled, and prints
or writes it.
-/

namespace Toolpath

def readFile (path : String) : IO (Except FileError ByteArray) := do
  try
    return .ok (← IO.FS.readBinFile path)
  catch _ =>
    return .error .notFound

def readSource (invocation : Invocation) : IO FileSource := do
  let input ← readFile invocation.input
  let settings ←
    match invocation.settingsFile with
    | some path => readFile path
    | none => pure (.error .notFound)
  return fun path =>
    if invocation.settingsFile = some path then settings
    else if path = invocation.input then input
    else .error .notFound

def reportFailure (cause : RunError) : IO UInt32 := do
  IO.eprintln ("Error: " ++ cause.message)
  return 1

def carryOut (invocation : Invocation) : IO UInt32 := do
  match invocation.program? (← readSource invocation) with
  | .error cause => reportFailure cause
  | .ok program =>
    match invocation.output with
    | none =>
      IO.print program.gcode
      return 0
    | some path =>
      try
        IO.FS.writeFile path program.gcode
        return 0
      catch _ => reportFailure (.unwritten path .notFound)

end Toolpath

open Toolpath in
/-- The program. -/
def main (arguments : List String) : IO UInt32 := do
  match Request.ofArguments arguments with
  | .error cause =>
    IO.eprintln ("error: " ++ cause.message)
    return 2
  | .ok .version =>
    IO.println releaseName
    return 0
  | .ok .help =>
    IO.print usageText
    return 0
  | .ok (.run invocation) => carryOut invocation
