/-
# Dumps as hosts

A dump answers the queries of a host.  The names in it are checked before: every build that is
mentioned exists, and the version can be read.
-/
import CompositeBuild.Dump.Containers
import CompositeBuild.Host
import CompositeBuild.SourceSet.Extraction
import CompositeBuild.Toolchain.Extraction

namespace CompositeBuild

namespace Dump

/-! ## Answers about one project -/

/-- The answer for a facet of a project: failures that were recorded for it stand in place of what
could be read. -/
def facet {α : Type} (recorded : List String) (extract : Logged (Option α)) :
    Logged (Fetched α) :=
  if recorded.isEmpty then do return .ofOption (← extract) else pure (.failed recorded)

/-- The project of a module, by its handle. -/
def findProject? (d : Dump) (m : Module) : Option Project := do
  (← d.build? m.build).projects.find? (·.path = m.path)

/-- The answer for the toolchain settings of a module. -/
def fetchToolchain (d : Dump) (config : ToolchainConfig) (m : Module) :
    Logged (Fetched ToolchainSettings) :=
  match d.findProject? m with
  | none => pure .absent
  | some project => facet project.failures.toolchain (ToolchainSettings.extract config project)

/-- The answer for the source sets of a module. -/
def fetchSourceSets (d : Dump) (m : Module) : Logged (Fetched (SortedSet SourceSet)) :=
  match d.findProject? m with
  | none => pure .absent
  | some project => facet project.failures.sourceSets (SourceSet.extract project)

/-! ## Answers about builds -/

/-- The answer for the project graph of a build, which has none if no project was captured. -/
def fetchBuild (d : Dump) (name : String) : Fetched CompositeBuild.Project :=
  match d.build? name with
  | none => .failed [s!"Unknown build `{name}`"]
  | some build =>
    (Fetched.ofOption (if build.projects.isEmpty then none else some build.model)).withFailures
      build.failures

namespace Build

/-- The handle of the root project of a build, which stands for its whole project graph.  A build
without captured projects has one too, so that its failures are met when it is fetched. -/
def rootRef (b : Build) : ProjectRef :=
  match b.rootProject? with
  | some root => ⟨b.name, root.name, root.path, root.projectDir⟩
  | none => ⟨b.name, b.name, rootPath, b.rootDir⟩

/-- The build with the handle of its root project, without the builds that it includes. -/
def ref (b : Build) : BuildRef := ⟨b.name, b.rootDir, [b.rootRef], []⟩

end Build

/-! ## The build graph -/

/-- The names of the builds that are not on a chain of includes. -/
def namesOff (d : Dump) (chain : List String) : List String :=
  (d.builds.map Build.name).filter fun name => !chain.contains name

/-- A build that is not on the chain leaves fewer names off it. -/
theorem length_namesOff_lt {d : Dump} {chain : List String} {name : String} {b : Build}
    (off : ¬ chain.contains name) (found : d.build? name = some b) :
    (d.namesOff (name :: chain)).length < (d.namesOff chain).length := by
  have named : b.name = name := by simpa using List.find?_some found
  have mem : name ∈ d.builds.map Build.name :=
    List.mem_map.2 ⟨b, List.mem_of_find?_eq_some found, named⟩
  have sub : d.namesOff (name :: chain) = (d.namesOff chain).filter (· ≠ name) := by
    simp only [namesOff, List.filter_filter]
    congr 1
    funext n
    by_cases h : n = name <;> simp [h]
  rw [sub]
  refine List.length_filter_lt_length_iff_exists.2 ⟨name, ?_, by simp⟩
  exact List.mem_filter.2 ⟨mem, by simpa using off⟩

set_option linter.unusedVariables false in
/-- The builds of the given names, each with the builds that it includes in turn.  `chain` names the
builds on the way from the root build; a build on the chain is not followed again. -/
def includedRefs (d : Dump) (chain : List String) : List String → Logged (List BuildRef)
  | [] => pure []
  | name :: rest =>
    if off : chain.contains name then do
      Logged.tell (.includeCycle name)
      includedRefs d chain rest
    else
      match found : d.build? name with
      | none => includedRefs d chain rest
      | some b => do
        let included ← includedRefs d (name :: chain) b.includedBuilds
        return { b.ref with included } :: (← includedRefs d chain rest)
  termination_by names => ((d.namesOff chain).length, names.length)
  decreasing_by
    · exact Prod.Lex.right _ (by simp)
    · exact Prod.Lex.right _ (by simp)
    · exact Prod.Lex.left _ _ (length_namesOff_lt off found)
    · exact Prod.Lex.right _ (by simp)

/-- The builds that the root build includes.  They are followed even if one of them is the root
build itself. -/
def rootIncludes (d : Dump) (root : Build) : Logged (List BuildRef) :=
  Logged.forEach (root.includedBuilds.filterMap d.build?) fun b => do
    let included ← d.includedRefs [b.name, root.name] b.includedBuilds
    return { b.ref with included }

/-- The build graph of a dump with a root build of the given name. -/
def graph (d : Dump) (rootName : String) : Logged BuildGraph := do
  let includedBuilds ←
    match d.build? rootName with
    | some root => d.rootIncludes root
    | none => pure []
  return ⟨includedBuilds, (d.editableBuilds.filterMap d.build?).map Build.ref⟩

/-! ## Checking a dump -/

/-- Why a dump cannot answer queries. -/
inductive Invalid where
  | noBuilds
  | unknownBuild (name : String)
  | version (e : HostVersion.Invalid)
deriving DecidableEq, Repr

/-- The message for a dump that cannot answer queries. -/
def Invalid.message : Invalid → String
  | noBuilds => "tooling dump contains no builds"
  | unknownBuild name => s!"tooling dump references unknown build `{name}`"
  | version e => e.message

/-- The names of builds that a dump refers to. -/
def referencedBuilds (d : Dump) : List String :=
  d.builds.flatMap Build.includedBuilds ++ d.editableBuilds

/-- A dump whose builds are known and whose version can be read. -/
structure Checked where
  dump : Dump
  rootBuild : String
  version : HostVersion
  named : dump.rootBuildName? = some rootBuild
  known : ∀ name ∈ rootBuild :: dump.referencedBuilds, (dump.build? name).isSome
  parsed : HostVersion.parse dump.gradleVersion = .ok version

/-- A search for an unknown name finds none exactly if all names are known. -/
theorem find?_isNone_eq_none_iff {d : Dump} {names : List String} :
    (names.find? fun name => (d.build? name).isNone) = none ↔
      ∀ name ∈ names, (d.build? name).isSome := by
  rw [List.find?_eq_none]
  simp only [Bool.not_eq_true, Option.isNone_eq_false_iff]

/-- Checks a dump. -/
def check (d : Dump) : Except Invalid Checked :=
  match named : d.rootBuildName? with
  | none => .error .noBuilds
  | some rootBuild =>
    match known : (rootBuild :: d.referencedBuilds).find? fun name => (d.build? name).isNone with
    | some name => .error (.unknownBuild name)
    | none =>
      match parsed : HostVersion.parse d.gradleVersion with
      | .error e => .error (.version e)
      | .ok version =>
        .ok ⟨d, rootBuild, version, named, find?_isNone_eq_none_iff.1 known, parsed⟩

/-- The host that answers from a checked dump. -/
def Checked.host (c : Checked) (config : ToolchainConfig) : Host where
  rootProject := c.dump.fetchBuild c.rootBuild
  project ref := c.dump.fetchBuild ref.build
  toolchain m := c.dump.fetchToolchain config m
  sourceSets m := c.dump.fetchSourceSets m
  graph := c.dump.graph c.rootBuild
  version := c.version

end Dump

end CompositeBuild
