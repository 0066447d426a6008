/-!
# Help texts

The texts that the command line prints about itself.
-/

namespace ModelLineage

/-- What help can be asked about. -/
inductive HelpTopic where
  | program
  | flatten
  | types
  | info
  | help
  deriving DecidableEq, Inhabited

namespace HelpTopic

/-- The lines of the help on a topic. -/
def lines : HelpTopic → List String
  | program =>
    ["Command-line front end for the BOAT Swift 5 model post-processor",
      "",
      "Usage: boat-swift [OPTIONS] <COMMAND>",
      "",
      "Commands:",
      "  flatten  Flatten allOf inheritance in a model graph document",
      "  types    Print the Swift declaration of every field after flattening",
      "  info     Print generator metadata, template variables and supporting files",
      "  help     Print this message or the help of the given subcommand(s)",
      "",
      "Options:",
      "  -v, --verbose...  Increase verbosity (-v, -vv)",
      "  -h, --help        Print help",
      "  -V, --version     Print version"]
  | flatten =>
    ["Flatten allOf inheritance in a model graph document",
      "",
      "Usage: boat-swift flatten [OPTIONS] <INPUT>",
      "",
      "Arguments:",
      "  <INPUT>  Model graph document (JSON)",
      "",
      "Options:",
      "  -o, --output <OUTPUT>              Write the flattened graph here instead of stdout",
      "  -v, --verbose...                   Increase verbosity (-v, -vv)",
      "      --strict                       Fail on dangling ancestors and unknown model references",
      "  -l, --library <LIBRARY>            HTTP client library",
      "      --project-name <PROJECT_NAME>  Project name",
      "  -h, --help                         Print help"]
  | types =>
    ["Print the Swift declaration of every field after flattening",
      "",
      "Usage: boat-swift types [OPTIONS] <INPUT>",
      "",
      "Arguments:",
      "  <INPUT>  Model graph document (JSON)",
      "",
      "Options:",
      "  -v, --verbose...  Increase verbosity (-v, -vv)",
      "  -h, --help        Print help"]
  | info =>
    ["Print generator metadata, template variables and supporting files",
      "",
      "Usage: boat-swift info [OPTIONS]",
      "",
      "Options:",
      "  -l, --library <LIBRARY>            HTTP client library",
      "  -v, --verbose...                   Increase verbosity (-v, -vv)",
      "      --project-name <PROJECT_NAME>  Project name",
      "  -h, --help                         Print help"]
  | help =>
    ["Print this message or the help of the given subcommand(s)",
      "",
      "Usage: boat-swift help [COMMAND]...",
      "",
      "Arguments:",
      "  [COMMAND]...  Print help for the subcommand(s)"]

/-- The help on a topic. -/
def text (topic : HelpTopic) : String :=
  String.join (topic.lines.map fun line => line ++ "\n")

end HelpTopic

/-- The version of the program. -/
def versionText : String := "boat-swift 0.3.0\n"

end ModelLineage
