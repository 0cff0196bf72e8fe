import Docstore.Console.Arguments
import Docstore.Console.Command

/-!
# `Docstore.Console.Usage` — help texts
-/

namespace Docstore.Console

/-- A line of a table: what is written, and what it means. -/
abbrev UsageRow := String × String

/-- A table under a heading, its second column aligned. -/
def usageTable (heading : String) (rows : List UsageRow) : String :=
  let width := (rows.map fun row => row.1.length).foldl max 0
  let line := fun (row : UsageRow) =>
    "  " ++ row.1 ++ String.ofList (List.replicate (width + 2 - row.1.length) ' ') ++ row.2 ++ "\n"
  "\n" ++ heading ++ ":\n" ++ String.join (rows.map line)

/-- What a command does. -/
def Verb.summary : Verb → String
  | .aggregate => "Run a pipeline (JSON array of stages) over a collection"
  | .insert => "Insert one document (JSON object)"
  | .load => "Load an additional seed file"
  | .collections => "List collection names"
  | .info => "Show version, compiled features and collection sizes"
  | .metrics => "Print aggregation counters"

/-- The operands of a command. -/
def Verb.operandRows : Verb → List UsageRow
  | .aggregate => [("<COLLECTION>", "Source collection"), ("[PIPELINE_FILE]", "Pipeline JSON file")]
  | .insert => [("<COLLECTION>", "Target collection"), ("<JSON>", "Document as JSON")]
  | .load => [("<FILE>", "Seed file path")]
  | .collections | .info | .metrics => []

/-- The options of a command, without the one that asks for help. -/
def Verb.optionRows : Verb → List UsageRow
  | .aggregate => [
    ("    --pipeline <PIPELINE>", "Pipeline as inline JSON"),
    ("    --now <NOW>", "RFC 3339 instant bound to $$NOW")]
  | _ => []

/-- The option that asks for help. -/
def helpRow : UsageRow := ("-h, --help", "Print help")

/-- Help on a command. -/
def Verb.help (verb : Verb) : String :=
  let operands := verb.operandRows
  let words := ["Usage: aggrelite", verb.name] ++
    (if verb.optionRows.isEmpty then [] else ["[OPTIONS]"]) ++ operands.map (·.1)
  verb.summary ++ "\n\n" ++ " ".intercalate words ++ "\n" ++
    (if operands.isEmpty then "" else usageTable "Arguments" operands) ++
    usageTable "Options" (verb.optionRows ++ [helpRow])

/-- Help on all commands. -/
def help : String :=
  let verbs := Verb.all.map fun verb => (verb.name, verb.summary)
  "In-memory aggregation pipeline CLI\n\nUsage: aggrelite [OPTIONS] <COMMAND>\n" ++
    usageTable "Commands"
      (verbs ++ [("help", "Print this message or the help of the given subcommand(s)")]) ++
    usageTable "Options" [
      ("    --config <CONFIG>",
        "Path to a config file (TOML). If omitted, the default locations are searched."),
      ("    --data <DATA>",
        "Seed file mapping collection names to document arrays, loaded before the command"),
      ("    --log-dir <LOG_DIR>", "Directory for rolling log files; logging is off when unset"),
      ("    --log-level <LOG_LEVEL>", "Log level: error|warn|info|debug|trace"),
      ("    --format <FORMAT>", "Output format: human|plain|json"),
      helpRow, ("-V, --version", "Print version")]

/-- The name and version of the program. -/
def versionText : String := "aggrelite " ++ OutputMode.version ++ "\n"

end Docstore.Console
