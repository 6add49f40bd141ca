/-
# Arguments of the command line

A command line names a command, with options before and after the name.  An option is settled when
the next known option or word arrives, or at the end: only then is it checked whether it has the
value that it needs, and whether it has been given before.
-/
import CompositeBuild.Path

namespace CompositeBuild.Cli

/-! ## What a command line asks for -/

/-- How a snapshot is exported. -/
structure ExportSettings where
  dump : Path
  /-- The file to write; the snapshot is printed if there is none. -/
  output : Option Path
  parallel : Bool
  noCollisionCheck : Bool
  legacyDiscovery : Bool
  compact : Bool
deriving DecidableEq, Repr

/-- A command. -/
inductive Command where
  | exportSnapshot (settings : ExportSettings)
  | listIds (dump : Path)
  | showSchema
deriving DecidableEq, Repr

/-- What a command line asks for. -/
structure Invocation where
  /-- Show the log. -/
  verbose : Bool
  command : Command
deriving DecidableEq, Repr

/-- Why a command line leads to no command. -/
inductive Stop where
  | helpWanted
  | versionWanted
  /-- Nothing was given at all. -/
  | nothingGiven
  | missingCommand
  | unknownCommand
  | unknownArgument
  | missingArgument
  /-- An option without its value, or an empty path. -/
  | invalidValue
  /-- An option that was given twice. -/
  | repeatedOption
  /-- A value for an option that takes none. -/
  | unwantedValue
deriving DecidableEq, Repr

/-- The exit code of a run that leads to no command. -/
def Stop.exitCode : Stop → UInt32
  | helpWanted => 0
  | versionWanted => 0
  | _ => 2

/-! ## Words -/

/-- A word of a command line. -/
inductive Word where
  /-- `--`, after which no word is an option. -/
  | separator
  /-- `--name` or `--name=value`. -/
  | long (name : String) (value : Option String)
  /-- `-abc`: letters of options, perhaps with a value behind the last. -/
  | short (letters : List Char)
  | plain (text : String)
deriving DecidableEq, Repr

/-- The name of a long option with its value, from the characters after the dashes. -/
def Word.ofLong (cs : List Char) : Word :=
  match cs.span (· ≠ '=') with
  | (name, []) => .long (String.ofList name) none
  | (name, _ :: value) => .long (String.ofList name) (some (String.ofList value))

/-- The word that a text stands for. -/
def Word.ofText (text : String) : Word :=
  match text.toList with
  | ['-', '-'] => .separator
  | '-' :: '-' :: rest => .ofLong rest
  | ['-'] => .plain text
  | '-' :: letters => .short letters
  | _ => .plain text

/-! ## Options -/

/-- An option that is given or not. -/
inductive Flag where
  | verbose
  | parallel
  | noCollisionCheck
  | legacyDiscovery
  | compact
deriving DecidableEq, Repr

/-- An option. -/
inductive Choice where
  | flag (f : Flag)
  | output
  | help
  | version
deriving DecidableEq, Repr

namespace Choice

/-- The long name of an option. -/
def longName : Choice → String
  | flag .verbose => "verbose"
  | flag .parallel => "parallel"
  | flag .noCollisionCheck => "no-collision-check"
  | flag .legacyDiscovery => "legacy-discovery"
  | flag .compact => "compact"
  | output => "output"
  | help => "help"
  | version => "version"

/-- The letter of an option. -/
def letter? : Choice → Option Char
  | flag .verbose => some 'v'
  | output => some 'o'
  | help => some 'h'
  | version => some 'V'
  | _ => none

end Choice

/-- The arguments that a command takes. -/
structure Grammar where
  choices : List Choice
  /-- The command takes the path of a dump. -/
  takesDump : Bool

namespace Grammar

/-- The arguments before the name of a command. -/
def general : Grammar := ⟨[.flag .verbose, .help, .version], false⟩

/-- The arguments for the export of a snapshot. -/
def exportSnapshot : Grammar where
  choices :=
    [.flag .verbose, .help, .output, .flag .parallel, .flag .noCollisionCheck,
      .flag .legacyDiscovery, .flag .compact]
  takesDump := true

/-- The arguments for the list of module ids. -/
def listIds : Grammar := ⟨[.flag .verbose, .help], true⟩

/-- The arguments for the schema. -/
def showSchema : Grammar := ⟨[.flag .verbose, .help], false⟩

/-- The option of a long name. -/
def byName? (g : Grammar) (name : String) : Option Choice := g.choices.find? (·.longName = name)

/-- The option of a letter. -/
def byLetter? (g : Grammar) (c : Char) : Option Choice := g.choices.find? (·.letter? = some c)

end Grammar

/-! ## Reading arguments -/

/-- The argument that is not settled yet. -/
inductive Pending where
  | none
  /-- The option for the output, with its value if that has been met. -/
  | output (value : Option String)
  | dump (text : String)
deriving DecidableEq, Repr

/-- The arguments that have been met so far. -/
structure Given where
  flags : List Flag
  output : Option String
  dump : Option String
  pending : Pending
deriving DecidableEq, Repr

namespace Given

/-- No arguments. -/
def nothing : Given := ⟨[], none, none, .none⟩

/-- Sets the file for the output. -/
def setOutput (g : Given) (value : String) : Except Stop Given :=
  if g.output.isSome then .error .repeatedOption
  else if value = "" then .error .invalidValue
  else .ok { g with output := some value }

/-- Settles the pending argument. -/
def settle (g : Given) : Except Stop Given :=
  match g.pending with
  | .none => .ok g
  | .output none => .error .invalidValue
  | .output (some value) => { g with pending := .none }.setOutput value
  | .dump text =>
    if text = "" then .error .invalidValue
    else .ok { g with dump := some text, pending := .none }

/-- Takes up an option, with the value that is attached to it. -/
def choose (g : Given) (choice : Choice) (attached : Option String) : Except Stop Given :=
  match choice, attached with
  | .output, some value => do (← g.settle).setOutput value
  | .output, none => do return { ← g.settle with pending := .output none }
  | _, some _ => .error .unwantedValue
  | .flag f, none => do
    let g ← g.settle
    if f ∈ g.flags then .error .repeatedOption else .ok { g with flags := f :: g.flags }
  | .help, none => do
    let _ ← g.settle
    .error .helpWanted
  | .version, none => do
    let _ ← g.settle
    .error .versionWanted

/-- Takes up a long option. -/
def takeLong (grammar : Grammar) (g : Given) (name : String) (value : Option String) :
    Except Stop Given :=
  match grammar.byName? name with
  | some choice => g.choose choice value
  | none => .error .unknownArgument

/-- The value behind the letter of an option. -/
def attachedValue : List Char → Option String
  | [] => none
  | '=' :: value => some (String.ofList value)
  | value => some (String.ofList value)

/-- Takes up the letters of short options. -/
def takeLetters (grammar : Grammar) (g : Given) : List Char → Except Stop Given
  | [] => .ok g
  | c :: rest =>
    match grammar.byLetter? c with
    | none => .error .unknownArgument
    | some .output => g.choose .output (attachedValue rest)
    | some choice => do takeLetters grammar (← g.choose choice none) rest

/-- The path of a dump has been met. -/
def hasDump (g : Given) : Bool :=
  g.dump.isSome ||
    match g.pending with
    | .dump _ => true
    | _ => false

/-- Takes up a word that is no option and no value of one. -/
def takeWord (grammar : Grammar) (g : Given) (text : String) : Except Stop Given :=
  if grammar.takesDump && !g.hasDump then do
    return { ← g.settle with pending := .dump text }
  else
    .error .unknownArgument

/-- Takes up a word that does not look like an option: the value of an option that waits for one, or
a word of its own. -/
def takePlain (grammar : Grammar) (g : Given) (text : String) : Except Stop Given :=
  match g.pending with
  | .output none => .ok { g with pending := .output (some text) }
  | _ => g.takeWord grammar text

/-- Takes up the words after the separator. -/
def takeWords (grammar : Grammar) : Given → List String → Except Stop Given
  | g, [] => .ok g
  | g, text :: rest => do takeWords grammar (← g.takeWord grammar text) rest

/-- Takes up the arguments of a command. -/
def takeAll (grammar : Grammar) : Given → List String → Except Stop Given
  | g, [] => .ok g
  | g, text :: rest =>
    match Word.ofText text with
    | .separator => g.takeWords grammar rest
    | .long name value => do takeAll grammar (← g.takeLong grammar name value) rest
    | .short letters => do takeAll grammar (← g.takeLetters grammar letters) rest
    | .plain text => do takeAll grammar (← g.takePlain grammar text) rest

/-- Reads the arguments of a command. -/
def ofArguments (grammar : Grammar) (arguments : List String) : Except Stop Given := do
  (← takeAll grammar nothing arguments).settle

/-- The path of the dump, which has to be given. -/
def dumpPath (g : Given) : Except Stop Path :=
  match g.dump with
  | some text => .ok ⟨text⟩
  | none => .error .missingArgument

end Given

/-! ## Reading command lines -/

/-- The name of a command. -/
inductive CommandName where
  | exportSnapshot
  | listIds
  | showSchema
  | help
deriving DecidableEq, Repr

/-- The command of a name. -/
def CommandName.ofText? (text : String) : Option CommandName :=
  if text = "export" then some exportSnapshot
  else if text = "ids" then some listIds
  else if text = "schema" then some showSchema
  else if text = "help" then some help
  else none

namespace Invocation

/-- Reads the arguments of the export of a snapshot. -/
def readExport (verbose : Bool) (arguments : List String) : Except Stop Invocation := do
  let g ← Given.ofArguments .exportSnapshot arguments
  let dump ← g.dumpPath
  return {
    verbose := verbose || .verbose ∈ g.flags
    command := .exportSnapshot {
      dump
      output := g.output.map Path.mk
      parallel := .parallel ∈ g.flags
      noCollisionCheck := .noCollisionCheck ∈ g.flags
      legacyDiscovery := .legacyDiscovery ∈ g.flags
      compact := .compact ∈ g.flags } }

/-- Reads the arguments of the list of module ids. -/
def readIds (verbose : Bool) (arguments : List String) : Except Stop Invocation := do
  let g ← Given.ofArguments .listIds arguments
  return ⟨verbose || .verbose ∈ g.flags, .listIds (← g.dumpPath)⟩

/-- Reads the arguments of the schema. -/
def readSchema (verbose : Bool) (arguments : List String) : Except Stop Invocation := do
  let g ← Given.ofArguments .showSchema arguments
  return ⟨verbose || .verbose ∈ g.flags, .showSchema⟩

/-- The outcome of asking for help, which may be about one command. -/
def stopForHelp : List String → Stop
  | [] => .helpWanted
  | [topic] => if (CommandName.ofText? topic).isSome then .helpWanted else .unknownCommand
  | _ => .unknownCommand

/-- Reads the arguments of a command. -/
def readCommand (name : CommandName) (verbose : Bool) (arguments : List String) :
    Except Stop Invocation :=
  match name with
  | .exportSnapshot => readExport verbose arguments
  | .listIds => readIds verbose arguments
  | .showSchema => readSchema verbose arguments
  | .help => .error (stopForHelp arguments)

/-- The outcome of a command line that ends before a command is named. -/
def stopAtEnd (g : Given) : Stop := if g.flags = [] then .nothingGiven else .missingCommand

/-- The outcome of a separator before a command is named. -/
def stopAtSeparator (g : Given) : List String → Stop
  | [] => stopAtEnd g
  | text :: _ =>
    if (CommandName.ofText? text).isSome then .unknownArgument else .unknownCommand

/-- Reads a command line after some of its options. -/
def readFrom : Given → List String → Except Stop Invocation
  | g, [] => .error (stopAtEnd g)
  | g, text :: rest =>
    match Word.ofText text with
    | .separator => .error (stopAtSeparator g rest)
    | .long name value => do readFrom (← g.takeLong .general name value) rest
    | .short letters => do readFrom (← g.takeLetters .general letters) rest
    | .plain text =>
      match CommandName.ofText? text with
      | some name => readCommand name (.verbose ∈ g.flags) rest
      | none => .error .unknownCommand

/-- Reads a command line. -/
def read (arguments : List String) : Except Stop Invocation := readFrom .nothing arguments

end Invocation

end CompositeBuild.Cli
