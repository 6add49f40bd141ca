/-
# Module ids

A module is named within a snapshot by its id: its own name behind the names of the containers
around it, outermost first, joined by dots.
-/

namespace CompositeBuild

open Std

/-- The name of a module within a snapshot. -/
structure ModuleId where
  text : String
deriving DecidableEq, Repr, Inhabited

namespace ModuleId

/-- Ids are in the order of the code points of their texts. -/
instance : Ord ModuleId := ⟨compareOn text⟩

instance : TransOrd ModuleId := inferInstanceAs (TransCmp (compareOn text))

instance : ToString ModuleId := ⟨text⟩

/-- The id of an element of a hierarchy.  `containers` are the names of the containers around it,
nearest first.  An element that is named like its project keeps its bare name. -/
def qualified (name : String) (containers : List String) (projectName : String) : ModuleId :=
  if name = projectName then ⟨name⟩
  else ⟨".".intercalate (containers.reverse ++ [name])⟩

end ModuleId

end CompositeBuild
