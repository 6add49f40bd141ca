/-
# Files

The two things that a command does with files: it reads one, and it writes one, for which it creates
the directories that are missing.  A `FileStore` is a monad in which both can be done.
-/
import CompositeBuild.Path

namespace CompositeBuild

/-- Why a file cannot be read or written. -/
inductive FileError where
  | notFound
  | isDirectory
  | notDirectory
  /-- The content is not text in UTF-8. -/
  | invalidData
  | other (reason : String)
deriving DecidableEq, Repr

/-- The message for a file that cannot be read or written. -/
def FileError.message : FileError → String
  | notFound => "no such file or directory"
  | isDirectory => "is a directory"
  | notDirectory => "not a directory"
  | invalidData => "stream did not contain valid UTF-8"
  | other reason => reason

/-- A monad in which files are read and written. -/
class FileStore (m : Type → Type) where
  /-- Reads the content of a file. -/
  read : Path → m (Except FileError ByteArray)
  /-- Writes a file in place of one that is there, and creates the directories above it. -/
  write : Path → ByteArray → m (Except FileError Unit)

/-- The text of a content. -/
def textOf (content : ByteArray) : Except FileError String :=
  match String.fromUTF8? content with
  | some text => .ok text
  | none => .error .invalidData

end CompositeBuild
