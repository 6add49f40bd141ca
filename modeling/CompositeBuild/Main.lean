/-
# The program

Reads the command line, runs the command on the files of the machine, and prints what it gives.
-/
import CompositeBuild.Cli.Pages
import CompositeBuild.Cli.Run

namespace CompositeBuild

/-! ## Files of the machine -/

/-- The cause of an error of the machine. -/
def FileError.ofMachine : IO.Error → FileError
  | .noFileOrDirectory _ _ _ => .notFound
  | e => .other (toString e)

/-- Runs an action on files. -/
def attempt {α : Type} (action : IO α) : IO (Except FileError α) := do
  match ← action.toBaseIO with
  | .ok a => return .ok a
  | .error e => return .error (.ofMachine e)

/-- Writes a file and creates the directories above it. -/
def writeBelow (path : Path) (content : ByteArray) : IO Unit := do
  match path.components.dropLast with
  | [] => pure ()
  | above => IO.FS.createDirAll (Path.ofComponents above).text
  IO.FS.writeBinFile path.text content

instance : FileStore IO where
  read path := attempt (IO.FS.readBinFile path.text)
  write path content := attempt (writeBelow path content)

/-! ## Running -/

namespace Cli

/-- The events that a log shows. -/
def shownEvents (events : List Event) : List Event := events.filter fun e => e.level ≠ .debug

/-- Prints the outcome of a command. -/
def Outcome.print (o : Outcome) (verbose : Bool) : IO Unit := do
  if verbose then
    IO.eprint (lines ((shownEvents o.events).map Event.line))
  IO.print o.output
  IO.eprint o.notes

/-- Runs the program on the arguments of a command line; gives the exit code. -/
def start (arguments : List String) : IO UInt32 := do
  match Invocation.read arguments with
  | .error stop =>
    IO.print stop.page
    IO.eprint stop.message
    return stop.exitCode
  | .ok invocation =>
    let outcome : Outcome ← invocation.command.run
    outcome.print invocation.verbose
    return outcome.exitCode

end Cli

end CompositeBuild

/-- The program. -/
def main (arguments : List String) : IO UInt32 := CompositeBuild.Cli.start arguments
