import Debugger.CommandLine.Help
import Debugger.CommandLine.Run
import Debugger.Debuggee.Peer

/-! # The program

The command line, on the debuggee that comes with the program and is found under every address.
-/

open Debugger CommandLine

/-- The variable that names a file of settings. -/
def configVariable : String := "JDI_CONFIG"

/-- The contents of a file, if it can be read. -/
def contentsOf (path : String) : IO (Option (List UInt8)) := do
  try return some (← IO.FS.readBinFile path).toList
  catch _ => return none

/-- Carries out a request with the settings of the file that it names. -/
def carryOut (r : Request) : IO Ending := do
  let file ← match Settings.discover r.config (← IO.getEnv configVariable) with
    | some path => pure (some (path, ← contentsOf path))
    | none => pure none
  return r.run file fun _ => .peer (Debuggee.start {} Debuggee.usualCapabilities)

def main (args : List String) : IO UInt32 := do
  match read args with
  | .help c =>
    IO.print c.page.text
    return 0
  | .version =>
    IO.print versionText
    return 0
  | .misuse =>
    IO.eprint Command.program.page.text
    return failureCode
  | .request r =>
    let e ← carryOut r
    IO.print e.out
    IO.eprint e.err
    return e.code
