import Stencil.Command.Run

/-! # The command line

Reads the files that a command names, and carries out what the command settles on.
-/

namespace Stencil.Command

/-- The text of a file, if it can be read as text. -/
def readText (file : String) : IO (Option String) := do
  try
    return String.fromUTF8? (← IO.FS.readBinFile file)
  catch _ => return none

/-- Carries out actions in order; a file that cannot be written ends the run. -/
def perform (code : Nat) : List Action → IO Nat
  | [] => return code
  | .print text :: rest => do
    IO.print text
    perform code rest
  | .complain text :: rest => do
    IO.eprint text
    perform code rest
  | .write file text :: rest => do
    let written ← try
        IO.FS.writeFile file text
        pure true
      catch _ => pure false
    if written then perform code rest
    else
      IO.eprint (unwritable file)
      return Outcome.failure

end Stencil.Command

open Stencil.Command in
/-- Runs a command line and ends with its exit code. -/
def main (arguments : List String) : IO UInt32 := do
  let texts ← (filesRead arguments).mapM fun file => return (file, ← readText file)
  let found ← settings.mapM fun name => return (name, ← IO.getEnv name)
  let world : World :=
    { text? := fun file => (texts.lookup file).join
      setting? := fun name => (found.lookup name).join }
  let outcome := run world arguments
  return UInt32.ofNat (← perform outcome.code outcome.actions)
