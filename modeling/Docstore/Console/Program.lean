import Docstore.Console.Usage
import Docstore.Logging
import Docstore.Settings.Basic

/-!
# `Docstore.Console.Program` — the command line program

`Program.run` reads a command line, gathers the settings, prepares the log files, loads the seed file
and carries the command out.
-/

namespace Docstore.Console

/-- What a run of the program leaves behind. -/
structure Outcome where
  /-- Zero for success, one for a failure, two for a wrong command line. -/
  exitCode : Nat
  output : String
  complaint : String
deriving DecidableEq, Repr

namespace Outcome

/-- A run that writes a text. -/
def success (output : String) : Outcome := ⟨0, output, ""⟩

/-- A run that fails. -/
def failure (complaint : String) : Outcome := ⟨1, "", complaint⟩

/-- A run that does not get as far as a command. -/
def ofRefusal : Refusal → Outcome
  | .help none => success Console.help
  | .help (some verb) => success verb.help
  | .version => success versionText
  | .misuse complaint => ⟨2, "", complaint⟩

end Outcome

/-- Is a variable set to something that switches it on? -/
def isSwitchedOn (value : Option String) : Bool :=
  match value.map Text.lower with
  | some text => text = "1" || text = "true" || text = "yes"
  | none => false

namespace Invocation

/-- The settings of the command line itself. -/
def settings (invocation : Invocation) : Settings :=
  { Settings.empty with
    data := invocation.data
    logDirectory := invocation.logDirectory
    logLevel := invocation.logLevel
    format := invocation.format }

end Invocation

/-- The settings of the database. -/
def databaseOptions (settings : Settings) : DatabaseOptions :=
  ⟨settings.slowMillis.getD DatabaseOptions.standard.slowMillis,
    settings.maxResults.or DatabaseOptions.standard.maxResults⟩

variable {m : Type → Type} [Monad m] [FileSystem m]

/-- The command of a request. The pipeline of an aggregation may be in a file. -/
def Request.command : Request → m (Except String Command)
  | .aggregate collection _ (some pipeline) now =>
    pure (.ok (.aggregate collection pipeline now))
  | .aggregate collection (some path) none now => do
    match ← readText path with
    | some pipeline => pure (.ok (.aggregate collection pipeline now))
    | none => pure (.error (path ++ ": cannot be read"))
  | .aggregate _ none none _ => pure (.error "a pipeline file or --pipeline is required")
  | .insert collection document => pure (.ok (.insert collection document))
  | .load path => pure (.ok (.load path))
  | .collections => pure (.ok .collections)
  | .info => pure (.ok .info)
  | .metrics => pure (.ok .metrics)

namespace Program

/-- Prepares the log files, if there is a directory for them. The answer is the path that cannot be
made, if there is one. -/
def prepareLogs (settings : Settings) (surroundings : Settings.Surroundings) :
    m (Option String) :=
  match settings.logDirectory with
  | none => pure none
  | some directory =>
    let traces := isSwitchedOn (surroundings.environment "AGGRELITE_DEV6")
    (LogPlan.make (.ofText settings.logLevel) traces).prepare directory

/-- A database with the documents of the seed file, if there is one. -/
def openWorkspace (settings : Settings) (supply : IdSupply) : m (Except Error Workspace) := do
  let workspace : Workspace := ⟨.empty (databaseOptions settings), .start supply⟩
  match settings.data with
  | none => pure (.ok workspace)
  | some path =>
    let (result, workspace) ← loadSeed path workspace
    pure (result.map fun _ => workspace)

/-- Carries out a request with some settings. -/
def perform (settings : Settings) (surroundings : Settings.Surroundings) (supply : IdSupply)
    (request : Request) : m Outcome := do
  if let some path ← prepareLogs settings surroundings then
    return .failure (Error.file path).message
  match ← openWorkspace settings supply with
  | .error cause => pure (.failure cause.message)
  | .ok workspace =>
    match ← request.command with
    | .error complaint => pure (.failure complaint)
    | .ok command =>
      let (result, _) ← command.run 0 (.ofText settings.format) workspace
      match result with
      | .ok output => pure (.success output)
      | .error cause => pure (.failure cause.message)

/-- Runs the program. -/
def run (words : List String) (surroundings : Settings.Surroundings) (supply : IdSupply) :
    m Outcome :=
  match Invocation.parse words with
  | .error refusal => pure (.ofRefusal refusal)
  | .ok invocation => do
    let settings ← Settings.load invocation.config surroundings
    perform (invocation.settings.or settings) surroundings supply invocation.request

end Program
end Docstore.Console
