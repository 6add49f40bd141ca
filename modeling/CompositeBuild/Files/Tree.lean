/-
# Files in memory

A tree of files and directories with a working directory.  Paths are followed from the root or from
the working directory, and `..` leads to the directory around, which for the root is the root.
-/
import CompositeBuild.Files

namespace CompositeBuild

/-! ## Trees -/

/-- What stands at a place of a tree. -/
inductive FileEntry where
  | directory
  | file (content : ByteArray)

/-- A place in a tree: the names on the way up to the root. -/
abbrev Place := List String

/-- Files and directories with a working directory.  The root is a directory without an entry. -/
structure FileTree where
  entries : List (Place × FileEntry)
  working : Place

namespace FileTree

/-- What stands at a place. -/
def at? (t : FileTree) (place : Place) : Option FileEntry :=
  if place = [] then some .directory else (t.entries.find? (·.1 = place)).map (·.2)

/-- Puts an entry at a place, in front of one that was there. -/
def put (t : FileTree) (place : Place) (entry : FileEntry) : FileTree :=
  { t with entries := (place, entry) :: t.entries }

theorem at?_put_self (t : FileTree) {place : Place} (below : place ≠ []) (entry : FileEntry) :
    (t.put place entry).at? place = some entry := by
  simp [at?, put, below]

theorem at?_put_of_ne (t : FileTree) {place other : Place} (ne : place ≠ other)
    (entry : FileEntry) : (t.put place entry).at? other = t.at? other := by
  simp [at?, put, ne]

/-- The tree of nothing but an empty working directory. -/
def empty : FileTree := ⟨[(["work"], .directory)], ["work"]⟩

/-! ## Following paths -/

/-- The place that a component leads to. -/
def enter (place : Place) : PathComponent → Place
  | .root => []
  | .current => place
  | .parent => place.tail
  | .name text => text :: place

/-- Follows the components of a path.  Every component but the first stands in a directory. -/
def follow (t : FileTree) (place : Place) : List PathComponent → Except FileError Place
  | [] => .ok place
  | component :: rest =>
    match t.at? place with
    | none => .error .notFound
    | some (.file _) => .error .notDirectory
    | some .directory => t.follow (enter place component) rest

/-- The path ends in a way that only a directory can: with a slash or with a dot. -/
def endsAsDirectory (path : Path) : Bool :=
  match (path.text.toList.splitOn '/').getLast? with
  | some [] => true
  | some ['.'] => true
  | _ => false

/-! ## Reading -/

/-- Reads a file. -/
def read (t : FileTree) (path : Path) : Except FileError ByteArray := do
  let place ← t.follow t.working path.components
  match t.at? place with
  | none => .error .notFound
  | some .directory => .error .isDirectory
  | some (.file content) => if endsAsDirectory path then .error .notDirectory else .ok content

/-! ## Writing -/

/-- Follows the components of a path and creates the directories that are missing on the way. -/
def create (t : FileTree) (place : Place) : List PathComponent → Except FileError Place × FileTree
  | [] => (.ok place, t)
  | component :: rest =>
    let next := enter place component
    match t.at? next with
    | some .directory => t.create next rest
    | some (.file _) => (.error .notDirectory, t)
    | none => (t.put next .directory).create next rest

/-- Writes a file at a place, unless there is a directory. -/
def writeAt (t : FileTree) (place : Place) (content : ByteArray) :
    Except FileError Unit × FileTree :=
  match t.at? place with
  | some .directory => (.error .isDirectory, t)
  | _ => (.ok (), t.put place (.file content))

/-- Writes a file and creates the directories above it. -/
def write (t : FileTree) (path : Path) (content : ByteArray) : Except FileError Unit × FileTree :=
  match t.create t.working path.components.dropLast with
  | (.error e, t) => (.error e, t)
  | (.ok place, t) =>
    match path.components.getLast? with
    | none => (.error .notFound, t)
    | some component =>
      if endsAsDirectory path then (.error .isDirectory, t)
      else t.writeAt (enter place component) content

instance : FileStore (StateM FileTree) where
  read path := return (← get).read path
  write path content := modifyGet fun t => t.write path content

end FileTree

end CompositeBuild
