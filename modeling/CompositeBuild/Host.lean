/-
# Hosts

A host answers queries about a composite build.  Its answers are values: a query has the same answer
whenever it is asked, and what the host tells while it answers is part of the answer.
-/
import CompositeBuild.Event
import CompositeBuild.Snapshot

namespace CompositeBuild

/-- The answers of a host. -/
structure Host where
  /-- The project graph of the root build. -/
  rootProject : Fetched Project
  /-- The project graph of a handle. -/
  project : ProjectRef → Fetched Project
  /-- The toolchain settings of a module; there are none if it has no compile task. -/
  toolchain : Module → Logged (Fetched ToolchainSettings)
  /-- The source sets of a module; there are none if it has no container for them. -/
  sourceSets : Module → Logged (Fetched (SortedSet SourceSet))
  /-- The builds that are composed into the root build. -/
  graph : Logged BuildGraph
  version : HostVersion

end CompositeBuild
