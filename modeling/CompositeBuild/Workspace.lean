/-
# Workspaces

The snapshot of a workspace is aggregated from the file of a tooling dump and exported to a file.
-/
import CompositeBuild.Aggregation
import CompositeBuild.Dump.Host
import CompositeBuild.Files

namespace CompositeBuild

/-! ## Errors -/

/-- Why a run gives no snapshot. -/
inductive RunError where
  | file (e : FileError)
  | json (e : Json.DecodeError)
  /-- The dump cannot answer queries. -/
  | host (e : Dump.Invalid)
  | aggregation (e : RootUnavailable)

/-- The words for a fault of a JSON text. -/
def Json.Fault.describe : Json.Fault → String
  | malformed => "malformed text"
  | unfinished => "unfinished text"

/-- The message for a JSON text that cannot be decoded. -/
def Json.DecodeError.message : Json.DecodeError → String
  | text fault => fault.describe
  | data mismatch => mismatch.message

/-- The message for a run that gives no snapshot. -/
def RunError.message : RunError → String
  | file e => s!"I/O error: {e.message}"
  | json e => s!"JSON serialization/deserialization error: {e.message}"
  | host e => s!"Host error: {e.message}"
  | aggregation e => s!"Aggregation failed: {e.message}"

/-! ## From the content of a dump to a snapshot -/

/-- Loads a dump from the content of its file: text in UTF-8 that holds a dump whose names are
known. -/
def Dump.load (content : ByteArray) : Except RunError Dump.Checked := do
  let text ← (textOf content).mapError .file
  let dump ← (Dump.decoder.fromText text).mapError .json
  dump.check.mapError .host

/-- Aggregates the content of a dump file. -/
def aggregateContent (path : Path) (content : ByteArray) (config : AggregationConfig) :
    Logged (Except RunError Aggregation) :=
  match Dump.load content with
  | .error e => pure (.error e)
  | .ok checked => do
    Logged.tell (.dumpLoaded path checked.version checked.dump.builds.length)
    match ← (checked.host .default).aggregate config with
    | .error e => return .error (.aggregation e)
    | .ok aggregation =>
      if !aggregation.diagnostics.isEmpty then
        Logged.tell (.diagnosticsLeft path aggregation.diagnostics.length)
      return .ok aggregation

/-! ## Files -/

section Files

variable {m : Type → Type} [Monad m] [FileStore m]

/-- Aggregates a dump file. -/
def aggregateFile (path : Path) (config : AggregationConfig) :
    m (Logged (Except RunError Aggregation)) := do
  match ← FileStore.read path with
  | .error e => return pure (.error (.file e))
  | .ok content => return aggregateContent path content config

/-- Writes a snapshot to a file. -/
def Snapshot.exportTo (s : Snapshot) (path : Path) (layout : Json.Layout) :
    m (Logged (Except FileError Unit)) := do
  match ← FileStore.write path (s.write layout).toUTF8 with
  | .error e => return pure (.error e)
  | .ok () => return do
    Logged.tell (.snapshotWritten path)
    return .ok ()

/-- Reads the file of a snapshot. -/
def Snapshot.readFrom (path : Path) : m (Except RunError Snapshot) := do
  match ← FileStore.read path with
  | .error e => return .error (.file e)
  | .ok content => return do
    let text ← (textOf content).mapError .file
    (Snapshot.read text).mapError .json

end Files

end CompositeBuild
