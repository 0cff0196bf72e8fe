import Docstore.Count
import Docstore.Files.Basic
import Docstore.Settings.Toml

/-!
# `Docstore.Settings.Basic` — the settings of the command line

Settings come from the variables of the environment and from settings files, and every setting is taken
from the first of them that has it. A file that cannot be read, or holds anything that is no setting,
counts as empty.

## Contents
- **Settings.** `Settings`, `Settings.or`.
- **Environment.** `Settings.ofEnvironment`.
- **Files.** `Settings.ofText?`, `Settings.paths`, `Settings.load`.
-/

namespace Docstore

/-! ## Settings -/

/-- The settings, each of which may be missing. -/
structure Settings where
  /-- The file that is loaded before the command. -/
  data : Option String
  logDirectory : Option String
  logLevel : Option String
  /-- The number of old log files that are kept. -/
  logRetention : Option Nat
  /-- The milliseconds from which on an aggregation counts as slow. -/
  slowMillis : Option Nat
  /-- The most documents that an aggregation returns. -/
  maxResults : Option Nat
  format : Option String
deriving DecidableEq, Repr

namespace Settings

/-- No settings. -/
def empty : Settings := ⟨none, none, none, none, none, none, none⟩

/-- Takes what is missing from other settings. -/
def or (settings other : Settings) : Settings :=
  { data := settings.data.or other.data
    logDirectory := settings.logDirectory.or other.logDirectory
    logLevel := settings.logLevel.or other.logLevel
    logRetention := settings.logRetention.or other.logRetention
    slowMillis := settings.slowMillis.or other.slowMillis
    maxResults := settings.maxResults.or other.maxResults
    format := settings.format.or other.format }

/-- The largest number of old log files. -/
def maxRetention : Nat := 0xFFFFFFFF

/-! ## Environment -/

/-- The values of the variables of an environment. -/
abbrev Environment := String → Option String

/-- The number that a variable holds, if it is one. -/
def numberOf (bound : Nat) (text : Option String) : Option Nat :=
  text.bind fun text => Text.unsignedUpTo? bound text.toList

/-- The settings that variables hold. -/
def ofEnvironment (environment : Environment) : Settings :=
  { data := environment "AGGRELITE_DATA"
    logDirectory := environment "AGGRELITE_LOG_DIR"
    logLevel := environment "AGGRELITE_LOG_LEVEL"
    logRetention := numberOf maxRetention (environment "AGGRELITE_LOG_RETENTION")
    slowMillis := numberOf Count.greatest (environment "AGGRELITE_SLOW_PIPELINE_MS")
    maxResults := numberOf Count.greatest (environment "AGGRELITE_MAX_RESULT_DOCS")
    format := environment "AGGRELITE_FORMAT" }

/-- The names of all variables that are looked at. -/
def variableNames : List String := [
  "AGGRELITE_CONFIG", "AGGRELITE_DATA", "AGGRELITE_DEV6", "AGGRELITE_FORMAT", "AGGRELITE_LOG_DIR",
  "AGGRELITE_LOG_LEVEL", "AGGRELITE_LOG_RETENTION", "AGGRELITE_MAX_RESULT_DOCS",
  "AGGRELITE_SLOW_PIPELINE_MS"]

/-! ## Files -/

/-- A number within a bound. -/
def countWithin? (bound : Nat) (n : Int) : Option Nat :=
  (Count.ofInteger? n).bind fun n => if n ≤ bound then some n else none

/-- Adds an entry of a settings file, if it is a setting of the right kind. -/
def addEntry? (settings : Settings) (entry : String × Toml.Scalar) : Option Settings :=
  match entry with
  | ("data", .text value) => some { settings with data := some value }
  | ("log_dir", .text value) => some { settings with logDirectory := some value }
  | ("log_level", .text value) => some { settings with logLevel := some value }
  | ("format", .text value) => some { settings with format := some value }
  | ("log_retention", .integer n) =>
    (countWithin? maxRetention n).map fun n => { settings with logRetention := some n }
  | ("slow_pipeline_ms", .integer n) =>
    (countWithin? Count.greatest n).map fun n => { settings with slowMillis := some n }
  | ("max_result_docs", .integer n) =>
    (countWithin? Count.greatest n).map fun n => { settings with maxResults := some n }
  | _ => none

/-- The settings of a text. -/
def ofText? (text : String) : Option Settings := do
  (← Toml.readEntries? text).foldlM addEntry? empty

/-- The name of a settings file. -/
def fileName : String := "aggrelite.toml"

/-- Where the command line is run. -/
structure Surroundings where
  environment : Environment
  /-- The directory of the settings of the user. -/
  userDirectory : Option String
  /-- The working directory. -/
  workingDirectory : Option String

/-- The paths of the settings files, those first that come first: the file that is asked for, the file
that the environment names, the file of the user and the file in the working directory. -/
def paths (asked : Option String) (surroundings : Surroundings) : List String :=
  asked.toList ++ (surroundings.environment "AGGRELITE_CONFIG").toList ++
    (surroundings.userDirectory.map (joinPath · fileName)).toList ++
    (surroundings.workingDirectory.map (joinPath · fileName)).toList

variable {m : Type → Type} [Monad m] [FileSystem m]

/-- The settings of some files, those of the first files first. -/
def ofFiles : List String → m Settings
  | [] => pure empty
  | path :: rest => do
    let settings := ((← readText path).bind ofText?).getD empty
    pure (settings.or (← ofFiles rest))

/-- The settings of the environment and the settings files. -/
def load (asked : Option String) (surroundings : Surroundings) : m Settings := do
  pure ((ofEnvironment surroundings.environment).or (← ofFiles (paths asked surroundings)))

end Settings
end Docstore
