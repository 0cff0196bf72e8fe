import Docstore.Files.Variables
import Docstore.Text.Numeral

/-!
# `Docstore.Logging` — which log files there are and what goes into them

A `LogPlan` names the log files of a directory and says which messages go to which: everything to
`app`, messages about slow aggregations to `metrics` alone, and traces for developers to `dev6` alone
if they are asked for.
-/

namespace Docstore

/-! ## Levels -/

/-- How much is logged. -/
inductive LogLevel where
  | off | error | warn | info | debug | trace
deriving DecidableEq, Repr

namespace LogLevel

/-- The name of a level. -/
def name : LogLevel → String
  | off => "OFF"
  | error => "ERROR"
  | warn => "WARN"
  | info => "INFO"
  | debug => "DEBUG"
  | trace => "TRACE"

/-- The level of a text in either case; no text and any other text stand for `info`. -/
def ofText (text : Option String) : LogLevel :=
  let lowered := Text.lower (text.getD "info")
  if lowered = "error" then error
  else if lowered = "warn" then warn
  else if lowered = "debug" then debug
  else if lowered = "trace" then trace
  else if lowered = "off" then off
  else info

end LogLevel

/-! ## Plans -/

/-- What is logged of the messages about a subject. -/
structure Logger where
  target : String
  level : LogLevel
  /-- Do the messages go on to the files of all messages? -/
  additive : Bool
  appenders : List String
deriving DecidableEq, Repr

/-- The log files and what goes into them. -/
structure LogPlan where
  /-- The names of the log files, without their endings. -/
  appenders : List String
  loggers : List Logger
  /-- What is logged of all other messages. -/
  rootLevel : LogLevel
  rootAppenders : List String
deriving DecidableEq, Repr

namespace LogPlan

/-- The subject of slow aggregations. -/
def metricsTarget : String := "aggrelite::metrics"

/-- The subject of traces for developers. -/
def tracesTarget : String := "aggrelite::dev6"

/-- The plan for a level, with or without traces for developers. -/
def make (level : LogLevel) (traces : Bool) : LogPlan :=
  { appenders := ["app", "metrics"] ++ if traces then ["dev6"] else []
    loggers := [
      ⟨metricsTarget, level, false, ["metrics"]⟩,
      if traces then ⟨tracesTarget, .trace, false, ["dev6"]⟩ else ⟨tracesTarget, .off, false, []⟩]
    rootLevel := level
    rootAppenders := ["app"] }

/-- Makes the log files of some names, and names the first that cannot be made. The variables in the
name of the directory are replaced only here, so that the files may come to lie in another one. -/
def makeFiles {m : Type → Type} [Monad m] [FileSystem m] (directory : String) :
    List String → m (Option String)
  | [] => pure none
  | name :: rest => do
    let path ← expandVariables (joinPath directory (name ++ ".log"))
    if ← FileSystem.makeDirectories (parentPath path) then
      if ← FileSystem.ensureFile path then makeFiles directory rest else pure (some path)
    else pure (some path)

/-- Makes the directory and the log files of a plan. The answer is the path that cannot be made, if
there is one. -/
def prepare {m : Type → Type} [Monad m] [FileSystem m] (plan : LogPlan) (directory : String) :
    m (Option String) := do
  if ← FileSystem.makeDirectories directory then makeFiles directory plan.appenders
  else pure (some directory)

end LogPlan
end Docstore
