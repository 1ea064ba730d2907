/-
  EventAlerts/Program/Help.lean
  =============================
  **Help texts** — what the program says about itself.
-/

namespace EventAlerts

/-- The program's name and version. -/
def versionText : String := "beacon 0.1.0\n"

/-- What help is asked about. -/
inductive HelpTopic
  | program
  | check
  /-- The check command, with less about its options. -/
  | checkSummary
  | replay
  | help
  deriving Repr, DecidableEq

namespace HelpTopic

def lines : HelpTopic → List String
  | program =>
    ["Beacon - Rule-driven alerts for host events",
     "",
     "Usage: beacon <COMMAND>",
     "",
     "Commands:",
     "  replay  Replay recorded occurrences against an alerts file",
     "  check   Validate an alerts file and list its rules",
     "  help    Print this message or the help of the given subcommand(s)",
     "",
     "Options:",
     "  -h, --help     Print help",
     "  -V, --version  Print version"]
  | check =>
    ["Validate an alerts file and list its rules",
     "",
     "Usage: beacon check [OPTIONS] --alerts <ALERTS>",
     "",
     "Options:",
     "      --alerts <ALERTS>",
     "          Alerts TOML file",
     "",
     "      --format <FORMAT>",
     "          [default: table]",
     "",
     "          Possible values:",
     "          - table: Aligned table with a header row",
     "          - json:  \x60\x7b \"rules\": [...] \x7d\x60 for scripting",
     "",
     "  -h, --help",
     "          Print help (see a summary with '-h')"]
  | checkSummary =>
    ["Validate an alerts file and list its rules",
     "",
     "Usage: beacon check [OPTIONS] --alerts <ALERTS>",
     "",
     "Options:",
     "      --alerts <ALERTS>  Alerts TOML file",
     "      --format <FORMAT>  [default: table] [possible values: table, json]",
     "  -h, --help             Print help (see more with '--help')"]
  | replay =>
    ["Replay recorded occurrences against an alerts file",
     "",
     "Usage: beacon replay [OPTIONS] --alerts <ALERTS>",
     "",
     "Options:",
     "      --alerts <ALERTS>      Alerts TOML file; may also carry \x60[messaging]\x60 and \x60[environment]\x60",
     "      --platform <PLATFORM>  Separate file for the \x60[messaging]\x60 and \x60[environment]\x60 tables",
     "      --input <INPUT>        JSON-lines occurrences (stdin if omitted)",
     "  -h, --help                 Print help"]
  | help =>
    ["Print this message or the help of the given subcommand(s)",
     "",
     "Usage: beacon help [COMMAND]...",
     "",
     "Arguments:",
     "  [COMMAND]...  Print help for the subcommand(s)"]

/-- The text of a topic. -/
def text (t : HelpTopic) : String := String.join (t.lines.map (· ++ "\n"))

end HelpTopic

end EventAlerts
