/-
# Events

What is worth telling while a workspace is aggregated.  A computation that tells events is a
`Logged` value: its result with the events in the order in which they happened.
-/
import CompositeBuild.Diagnostic
import CompositeBuild.BuildGraph.Discovery
import CompositeBuild.Fetched
import CompositeBuild.Property.Reading

namespace CompositeBuild

/-! ## Unresolved classpaths -/

/-- A classpath of a source set. -/
inductive Classpath where
  | compile
  | runtime
deriving DecidableEq, Repr

/-- The words for a classpath. -/
def Classpath.describe : Classpath → String
  | compile => "compile classpath"
  | runtime => "runtime classpath"

/-- A classpath of a source set that could not be resolved. -/
structure ResolutionError where
  sourceSet : String
  classpath : Classpath
  reason : String
deriving DecidableEq, Repr

/-- The message for a classpath that could not be resolved. -/
def ResolutionError.message (e : ResolutionError) : String :=
  s!"could not resolve {e.classpath.describe} of source set {e.sourceSet}: {e.reason}"

/-! ## Events -/

/-- How much an event matters. -/
inductive Level where
  | error
  | warn
  | info
  | debug
deriving DecidableEq, Repr

/-- The word for a level. -/
def Level.word : Level → String
  | error => "ERROR"
  | warn => "WARN"
  | info => "INFO"
  | debug => "DEBUG"

/-- Something that happened. -/
inductive Event where
  | exportStarted (dump : Path)
  | dumpLoaded (dump : Path) (version : HostVersion) (builds : Nat)
  | includeCycle (build : String)
  | failureReported (scope : Scope) (failure : Failure)
  | rootUnavailable
  | buildsDiscovered (count : Nat) (strategy : DiscoveryStrategy)
  | projectSkipped (scope : Scope)
  | moduleVisited (id : ModuleId) (path : String)
  | propertyIgnored (task property : String) (error : PropertyError)
  | classpathUnresolved (error : ResolutionError)
  | idRepeated (id : ModuleId)
  | aggregated (projects modules withToolchain diagnostics : Nat)
  | diagnosticsLeft (dump : Path) (count : Nat)
  | snapshotWritten (file : Path)
deriving DecidableEq

namespace Event

/-- The level of an event. -/
def level : Event → Level
  | exportStarted _ => .info
  | dumpLoaded _ _ _ => .info
  | includeCycle _ => .debug
  | failureReported _ _ => .warn
  | rootUnavailable => .error
  | buildsDiscovered _ _ => .debug
  | projectSkipped _ => .warn
  | moduleVisited _ _ => .debug
  | propertyIgnored _ _ _ => .debug
  | classpathUnresolved _ => .warn
  | idRepeated _ => .warn
  | aggregated _ _ _ _ => .info
  | diagnosticsLeft _ _ => .warn
  | snapshotWritten _ => .info

/-- The message of an event. -/
def message : Event → String
  | exportStarted dump => s!"Aggregating tooling dump {dump}..."
  | dumpLoaded dump version builds =>
    s!"Loaded tooling dump {dump} (Gradle {version.display}, {builds} builds)"
  | includeCycle build => s!"Include cycle through build {build}, not following"
  | failureReported scope failure => s!"{scope.display}: {failure.display}"
  | rootUnavailable => "Root project model unavailable, aborting aggregation"
  | buildsDiscovered count strategy =>
    s!"Discovered {count} included builds using {strategy.word} strategy"
  | projectSkipped scope => s!"Skipping {scope.display}: model unavailable"
  | moduleVisited id path => s!"Fetching facets of {id} ({path})"
  | propertyIgnored task property error => s!"Ignoring {task}.{property}: {error.message}"
  | classpathUnresolved error =>
    s!"Unable to resolve a file collection for source set {error.sourceSet} - {error.message}"
  | idRepeated id => s!"Module id {id} resolved more than once, keeping the last module"
  | aggregated projects modules withToolchain diagnostics =>
    s!"Aggregated {projects} projects, {modules} modules " ++
      s!"({withToolchain} with toolchain settings), {diagnostics} diagnostics"
  | diagnosticsLeft dump count => s!"Aggregation of {dump} finished with {count} diagnostics"
  | snapshotWritten file => s!"Snapshot written to {file}"

/-- The line of an event in a log. -/
def line (e : Event) : String := s!"{e.level.word} {e.message}"

end Event

/-! ## Computations that tell events -/

/-- A result with the events that were told on the way to it. -/
structure Logged (α : Type) where
  value : α
  events : List Event

namespace Logged

/-- Tells one event. -/
def tell (e : Event) : Logged Unit := ⟨(), [e]⟩

instance : Monad Logged where
  pure a := ⟨a, []⟩
  bind x f := ⟨(f x.value).value, x.events ++ (f x.value).events⟩

@[simp] theorem value_pure {α : Type} (a : α) : (pure a : Logged α).value = a := rfl

@[simp] theorem events_pure {α : Type} (a : α) : (pure a : Logged α).events = [] := rfl

@[simp] theorem value_bind {α β : Type} (x : Logged α) (f : α → Logged β) :
    (x >>= f).value = (f x.value).value := rfl

@[simp] theorem events_bind {α β : Type} (x : Logged α) (f : α → Logged β) :
    (x >>= f).events = x.events ++ (f x.value).events := rfl

/-- Runs a computation for each element of a list, in order, and gives the results. -/
def forEach {α β : Type} (xs : List α) (f : α → Logged β) : Logged (List β) :=
  match xs with
  | [] => pure []
  | x :: rest => do
    let y ← f x
    return y :: (← forEach rest f)

@[simp] theorem value_forEach {α β : Type} (xs : List α) (f : α → Logged β) :
    (forEach xs f).value = xs.map fun x => (f x).value := by
  induction xs with
  | nil => rfl
  | cons x rest ih => simp [forEach, ih]

@[simp] theorem events_forEach {α β : Type} (xs : List α) (f : α → Logged β) :
    (forEach xs f).events = xs.flatMap fun x => (f x).events := by
  induction xs with
  | nil => rfl
  | cons x rest ih => simp [forEach, ih]

end Logged

end CompositeBuild
