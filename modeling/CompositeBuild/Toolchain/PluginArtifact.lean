/-
# Compiler-plugin archives

The archive of a compiler plugin is told by its file name alone: the name holds the mark
`-compiler-plugin` somewhere before its ending `.jar`, and it has no line break.
-/
import CompositeBuild.Path

namespace CompositeBuild

namespace Text

/-- The text holds the part somewhere. -/
def holds (part : List Char) : List Char → Bool
  | [] => part.isEmpty
  | c :: rest => part.isPrefixOf (c :: rest) || holds part rest

/-- The text without an ending; `none` if it does not end so. -/
def dropEnding? (ending cs : List Char) : Option (List Char) :=
  if ending.isSuffixOf cs then some (cs.take (cs.length - ending.length)) else none

/-- The text without a part at its start, or the whole text if it does not start so. -/
def dropStart (start cs : List Char) : List Char :=
  if start.isPrefixOf cs then cs.drop start.length else cs

end Text

/-- The mark in the file names of compiler plugins. -/
def pluginMark : List Char := "-compiler-plugin".toList

/-- The ending of the file names of archives. -/
def archiveEnding : List Char := ".jar".toList

/-- The file name is that of a compiler plugin. -/
def isPluginName (name : List Char) : Bool :=
  match Text.dropEnding? archiveEnding name with
  | some stem => !name.contains '\n' && Text.holds pluginMark stem
  | none => false

/-- The path is that of the archive of a compiler plugin. -/
def Path.isPluginArtifact (path : Path) : Bool :=
  match path.fileName with
  | some name => isPluginName name.toList
  | none => false

end CompositeBuild
