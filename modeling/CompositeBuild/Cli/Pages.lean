/-
# Pages of the command line

What is shown when a command line leads to no command.
-/
import CompositeBuild.Cli.Arguments

namespace CompositeBuild.Cli

/-- The name and the version of the program. -/
def versionPage : String := "buildscope 0.3.0\n"

/-- The summary of the commands and their options. -/
def helpPage : String :=
  "Aggregates build-graph metadata into a single workspace snapshot

Usage: buildscope [OPTIONS] <COMMAND>

Commands:
  export <DUMP>  Aggregate a tooling dump and write the workspace snapshot
  ids <DUMP>     Print the module ids of a tooling dump, one per line
  schema         Print the JSON schema of the workspace snapshot
  help           Print this message

Options of export:
  -o, --output <OUT>        Write the snapshot to this file instead of stdout
      --parallel            Fetch per-project facets in parallel
      --no-collision-check  Do not report module id collisions
      --legacy-discovery    Always discover builds through the legacy included-builds view
      --compact             Write single-line JSON

Options:
  -v, --verbose  Show log output on stderr
  -h, --help     Print help
  -V, --version  Print version
"

namespace Stop

/-- The message for a command line that leads to no command. -/
def message : Stop → String
  | helpWanted => ""
  | versionWanted => ""
  | nothingGiven => helpPage
  | missingCommand => "error: a command is missing\n"
  | unknownCommand => "error: unrecognized command\n"
  | unknownArgument => "error: unexpected argument\n"
  | missingArgument => "error: a required argument was not provided\n"
  | invalidValue => "error: a value is required for an argument but none was supplied\n"
  | repeatedOption => "error: an argument cannot be used multiple times\n"
  | unwantedValue => "error: unexpected value for an option that takes none\n"

/-- The page that was asked for. -/
def page : Stop → String
  | helpWanted => helpPage
  | versionWanted => versionPage
  | _ => ""

end Stop

end CompositeBuild.Cli
