/-
# Diagnostics

The failures that an aggregation met, each with the unit that it belongs to.
-/
import CompositeBuild.ModuleId
import CompositeBuild.Json.Value

namespace CompositeBuild

/-- The unit to which a failure belongs. -/
inductive Scope where
  | rootProject
  | project (build path : String)
  | toolchain (id : ModuleId)
  | sourceSets (id : ModuleId)
  | collision (id : ModuleId)
deriving DecidableEq, Repr

/-- The words for a unit. -/
def Scope.display : Scope → String
  | rootProject => "root project"
  | project build path => s!"project {build}{path}"
  | toolchain id => s!"toolchain of {id}"
  | sourceSets id => s!"source sets of {id}"
  | collision id => s!"module id {id}"

/-- The members that stand for a unit in JSON. -/
def Scope.members : Scope → List (String × Json)
  | rootProject => [("scope", .string "rootProject")]
  | project build path =>
    [("scope", .string "project"), ("build", .string build), ("path", .string path)]
  | toolchain id => [("scope", .string "toolchain"), ("module", .string id.text)]
  | sourceSets id => [("scope", .string "sourceSets"), ("module", .string id.text)]
  | collision id => [("scope", .string "collision"), ("module", .string id.text)]

/-- A message about a unit. -/
structure Diagnostic where
  scope : Scope
  message : String
deriving DecidableEq, Repr

namespace Diagnostic

/-- The text of a diagnostic. -/
def display (d : Diagnostic) : String := s!"[{d.scope.display}] {d.message}"

/-- The JSON form of a diagnostic. -/
def toJson (d : Diagnostic) : Json :=
  .object (d.scope.members ++ [("message", .string d.message)])

end Diagnostic

end CompositeBuild
