/-
# Source sets

A source set is a named group of source and resource roots with the files that it is compiled
against, runs with and produces.
-/
import CompositeBuild.Collection.SortedSet
import CompositeBuild.Json.Record

namespace CompositeBuild

open Std

/-- A source set of a module. -/
structure SourceSet where
  name : String
  sources : SortedSet Path
  resources : SortedSet Path
  /-- The patterns that are excluded from the sources or from the resources. -/
  excludes : SortedSet String
  compileClasspath : SortedSet Path
  runtimeClasspath : SortedSet Path
  /-- The packaged archives together with the compiled output. -/
  artifacts : SortedSet Path
  /-- One of the two classpaths could not be resolved and is empty for that reason. -/
  hasUnresolvedDependencies : Bool
deriving DecidableEq

namespace SourceSet

/-- Source sets are compared by all their fields, from first to last. -/
instance : Ord SourceSet :=
  ⟨compareLex (compareOn name) <| compareLex (compareOn sources) <|
    compareLex (compareOn resources) <| compareLex (compareOn excludes) <|
    compareLex (compareOn compileClasspath) <| compareLex (compareOn runtimeClasspath) <|
    compareLex (compareOn artifacts) (compareOn hasUnresolvedDependencies)⟩

instance : TransOrd SourceSet :=
  inferInstanceAs (TransCmp <|
    compareLex (compareOn name) <| compareLex (compareOn sources) <|
    compareLex (compareOn resources) <| compareLex (compareOn excludes) <|
    compareLex (compareOn compileClasspath) <| compareLex (compareOn runtimeClasspath) <|
    compareLex (compareOn artifacts) (compareOn hasUnresolvedDependencies))

/-! ## JSON -/

/-- The JSON form of a set of paths. -/
def pathsToJson (paths : SortedSet Path) : Json := Json.strings (paths.toList.map Path.text)

/-- Decodes a set of paths. -/
def pathsDecoder : Json.Decoder (SortedSet Path) := fun room node => do
  return .ofListFirst (← Json.Decoder.list Json.Decoder.path room node)

/-- Decodes a set of strings. -/
def stringsDecoder : Json.Decoder (SortedSet String) := fun room node => do
  return .ofListFirst (← Json.Decoder.list Json.Decoder.string room node)

/-- The JSON form of a source set. -/
def toJson (s : SourceSet) : Json :=
  .object
    [("name", .string s.name),
     ("sources", pathsToJson s.sources),
     ("resources", pathsToJson s.resources),
     ("excludes", Json.strings s.excludes.toList),
     ("compileClasspath", pathsToJson s.compileClasspath),
     ("runtimeClasspath", pathsToJson s.runtimeClasspath),
     ("artifacts", pathsToJson s.artifacts),
     ("hasUnresolvedDependencies", .bool s.hasUnresolvedDependencies)]

/-- Decodes a source set. -/
def decoder : Json.Decoder SourceSet :=
  .record "SourceSet"
    (fun room =>
      .cons (.required "name" (Json.Decoder.string room)) <|
      .cons (.defaulted "sources" .empty (pathsDecoder room)) <|
      .cons (.defaulted "resources" .empty (pathsDecoder room)) <|
      .cons (.defaulted "excludes" .empty (stringsDecoder room)) <|
      .cons (.defaulted "compileClasspath" .empty (pathsDecoder room)) <|
      .cons (.defaulted "runtimeClasspath" .empty (pathsDecoder room)) <|
      .cons (.defaulted "artifacts" .empty (pathsDecoder room)) <|
      .cons (.defaulted "hasUnresolvedDependencies" false (Json.Decoder.bool room)) .nil)
    fun (name, sources, resources, excludes, compileClasspath, runtimeClasspath, artifacts,
        hasUnresolvedDependencies, _) =>
      ⟨name, sources, resources, excludes, compileClasspath, runtimeClasspath, artifacts,
        hasUnresolvedDependencies⟩

/-- The JSON form of the source sets of a module. -/
def setToJson (sets : SortedSet SourceSet) : Json := .array (sets.toList.map toJson)

/-- Decodes the source sets of a module. -/
def setDecoder : Json.Decoder (SortedSet SourceSet) := fun room node => do
  return .ofListFirst (← Json.Decoder.list decoder room node)

end SourceSet

end CompositeBuild
