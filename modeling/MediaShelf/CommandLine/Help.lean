/-!
# What the program says about itself

The explanation of the command line, and the version.
-/

namespace MediaShelf.CommandLine

/-- The rows of the explanation. -/
def helpRows : List String := [
  "Dry-run the media renaming rule engine against a catalog snapshot",
  "",
  "Usage: shelf [OPTIONS] <COMMAND>",
  "",
  "Commands:",
  "  rename  Print the synthesized name of each file",
  "  place   Print the destination directory of each file",
  "  plan    Print name and destination of every file, planned concurrently",
  "  help    Print this message or the help of the given subcommand(s)",
  "",
  "Options:",
  "  -c, --config <CONFIG>      Configuration file (TOML, YAML or JSON) [env: SHELF_CONFIG]",
  "  -v, --verbose...           Increase log verbosity; repeat for more",
  "  -h, --help                 Print help",
  "  -V, --version              Print version",
  "",
  "Options of the commands:",
  "      --snapshot <SNAPSHOT>  Catalog snapshot, as JSON",
  "      --script <SCRIPT>      Renaming script, overriding the configured one (rename, plan)",
  "      --file <FILE>          Only this file (rename, place)"]

/-- The explanation of the command line. -/
def helpText : String :=
  String.join (helpRows.map fun row => row ++ "\n")

/-- The name and the version of the program. -/
def versionText : String := "shelf 0.1.0-beta\n"

/-- What is said about arguments that make no request. -/
def usageText : String := "error: invalid arguments; see 'shelf --help'\n"

end MediaShelf.CommandLine
