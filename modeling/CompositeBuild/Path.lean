/-
# File paths

A path is kept as it was written and compared by its components: repeated and trailing slashes and
`.` components other than a leading one make no difference.  So two spellings may be equal in the
order of paths without being the same path.
-/

namespace CompositeBuild

open Std

/-! ## Components -/

/-- A component of a path. -/
inductive PathComponent where
  | root
  | current
  | parent
  | name (text : String)
deriving DecidableEq, Repr

namespace PathComponent

/-- The place of the kinds of components in their order. -/
def rank : PathComponent → Nat
  | root => 0
  | current => 1
  | parent => 2
  | name _ => 3

/-- The text of a component that is a name, and the empty text otherwise. -/
def nameText : PathComponent → String
  | name text => text
  | _ => ""

/-- The root comes first, then `.`, then `..`, then the names in the order of their code points. -/
instance : Ord PathComponent := ⟨compareLex (compareOn rank) (compareOn nameText)⟩

instance : TransOrd PathComponent :=
  inferInstanceAs (TransCmp (compareLex (compareOn rank) (compareOn nameText)))

/-- The text of a component between two slashes. -/
def text : PathComponent → String
  | root => ""
  | current => "."
  | parent => ".."
  | name text => text

/-- The component that a piece between two slashes stands for; empty pieces and `.` stand for
none. -/
def ofPiece : List Char → Option PathComponent
  | [] => none
  | ['.'] => none
  | ['.', '.'] => some parent
  | piece => some (name (String.ofList piece))

end PathComponent

/-! ## Paths -/

/-- A file path as it was written. -/
structure Path where
  text : String
deriving DecidableEq, Repr, Inhabited

namespace Path

/-- The components of the text of a path.  A leading slash is the root; a leading `.` is a component
of its own. -/
def componentsOf (cs : List Char) : List PathComponent :=
  match cs, cs.splitOn '/' with
  | '/' :: _, pieces => .root :: pieces.filterMap PathComponent.ofPiece
  | _, ['.'] :: pieces => .current :: pieces.filterMap PathComponent.ofPiece
  | _, pieces => pieces.filterMap PathComponent.ofPiece

/-- The components of a path. -/
def components (path : Path) : List PathComponent := componentsOf path.text.toList

/-- Paths are compared component by component, a path that ends first being the smaller. -/
instance : Ord Path := ⟨compareOn components⟩

instance : TransOrd Path := inferInstanceAs (TransCmp (compareOn components))

/-- The last component, if it is a name. -/
def fileName (path : Path) : Option String :=
  match path.components.getLast? with
  | some (.name text) => some text
  | _ => none

/-- A path of the components. -/
def ofComponents : List PathComponent → Path
  | [.root] => ⟨"/"⟩
  | components => ⟨"/".intercalate (components.map PathComponent.text)⟩

instance : ToString Path := ⟨text⟩

end Path

end CompositeBuild
