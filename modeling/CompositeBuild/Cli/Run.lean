/-
# Running commands

A command reads the file of a dump, if it needs one, and then prints its result or writes it to a
file.  Nothing is printed by a run that fails.
-/
import CompositeBuild.Cli.Arguments
import CompositeBuild.Snapshot.Schema
import CompositeBuild.Workspace

namespace CompositeBuild.Cli

/-! ## Outcomes -/

/-- The outcome of a command. -/
structure Outcome where
  /-- What was told while the command ran. -/
  events : List Event
  /-- What the command prints and what it notes, or why it failed. -/
  result : Except RunError (String × String)

namespace Outcome

/-- The text that a command prints. -/
def output (o : Outcome) : String :=
  match o.result with
  | .ok (output, _) => output
  | .error _ => ""

/-- The text that a command puts on the error stream. -/
def notes (o : Outcome) : String :=
  match o.result with
  | .ok (_, notes) => notes
  | .error e => s!"Error: {e.message}\n"

/-- The exit code of a command. -/
def exitCode (o : Outcome) : UInt32 :=
  match o.result with
  | .ok _ => 0
  | .error _ => 1

end Outcome

/-! ## Texts -/

/-- Each text on a line of its own. -/
def lines (texts : List String) : String := String.join (texts.map (· ++ "\n"))

/-- The note about diagnostics, which is empty if there are none. -/
def diagnosticsNote (diagnostics : List Diagnostic) : String :=
  if diagnostics.isEmpty then ""
  else
    lines (s!"Snapshot exported with {diagnostics.length} diagnostics:" ::
      diagnostics.map fun d => s!" - {d.display}")

/-! ## Exporting a snapshot -/

namespace ExportSettings

/-- The settings of the aggregation. -/
def config (s : ExportSettings) : AggregationConfig where
  parallel := s.parallel
  detectCollisions := !s.noCollisionCheck
  strategy := if s.legacyDiscovery then some .legacy else none

/-- The layout of the snapshot. -/
def layout (s : ExportSettings) : Json.Layout := if s.compact then .compact else .pretty

end ExportSettings

section Commands

variable {m : Type → Type} [Monad m] [FileStore m]

/-- Prints a snapshot or writes it to a file; gives what is printed. -/
def putSnapshot (snapshot : Snapshot) (settings : ExportSettings) :
    m (Logged (Except FileError String)) :=
  match settings.output with
  | none => return pure (.ok (snapshot.write settings.layout))
  | some path => do
    let written : Logged (Except FileError Unit) ← snapshot.exportTo path settings.layout
    return ⟨written.value.map fun _ => "", written.events⟩

/-- Exports the snapshot of a dump. -/
def exportSnapshot (settings : ExportSettings) : m Outcome := do
  let aggregated : Logged (Except RunError Aggregation) ←
    aggregateFile settings.dump settings.config
  let before := .exportStarted settings.dump :: aggregated.events
  match aggregated.value with
  | .error e => return ⟨before, .error e⟩
  | .ok aggregation =>
    let put : Logged (Except FileError String) ← putSnapshot aggregation.snapshot settings
    let result :=
      match put.value with
      | .error e => .error (.file e)
      | .ok output => .ok (output, diagnosticsNote aggregation.diagnostics)
    return ⟨before ++ put.events, result⟩

/-! ## The other commands -/

/-- Prints the module ids of a dump. -/
def listIds (dump : Path) : m Outcome := do
  let aggregated : Logged (Except RunError Aggregation) ← aggregateFile dump .default
  let result := aggregated.value.map fun aggregation =>
    (lines (aggregation.snapshot.moduleIds.toList.map ModuleId.text), "")
  return ⟨aggregated.events, result⟩

/-- Prints the schema of snapshots. -/
def showSchema : Outcome := ⟨[], .ok (lines [Snapshot.schema.pretty], "")⟩

/-- Runs a command. -/
def Command.run : Command → m Outcome
  | exportSnapshot settings => Cli.exportSnapshot settings
  | listIds dump => Cli.listIds dump
  | showSchema => return Cli.showSchema

end Commands

end CompositeBuild.Cli
