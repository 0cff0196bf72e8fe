import Docstore.Console.Program

/-!
# `Docstore.Main` — the program

Runs the command line program with the files and the environment of the machine.
-/

namespace Docstore

instance : FileSystem IO where
  read path := do
    try pure (some (← IO.FS.readBinFile path)) catch _ => pure none
  makeDirectories path := do
    if path.isEmpty then pure true
    else
      try
        IO.FS.createDirAll path
        pure true
      catch _ => pure false
  ensureFile path := do
    try
      let _ ← IO.FS.Handle.mk path .append
      pure true
    catch _ => pure false
  environmentValue name := IO.getEnv name

/-- The variables of the environment that the settings look at. -/
def environmentVariables : IO Settings.Environment := do
  let values ← Settings.variableNames.mapM fun name => do pure (name, ← IO.getEnv name)
  pure fun name => (Entries.get? name values).join

/-- The directory of settings below the home directory. -/
def homeSettings : IO (Option String) := do
  pure ((← IO.getEnv "HOME").map fun home => joinPath home ".config")

/-- The directory of the settings of the user. -/
def userDirectory : IO (Option String) := do
  match ← IO.getEnv "XDG_CONFIG_HOME" with
  | some path => if Text.beginsWith '/' path then pure (some path) else homeSettings
  | none => homeSettings

/-- A supply of identifiers that begins at random. -/
def randomSupply : IO IdSupply := do
  let bytes ← IO.getRandomBytes 12
  pure ⟨.ofNat (bytes.toList.foldl (fun n byte => 256 * n + byte.toNat) 0)⟩

end Docstore

open Docstore

/-- Runs the program on the words of the command line. -/
def main (words : List String) : IO UInt32 := do
  let surroundings : Settings.Surroundings := {
    environment := ← environmentVariables
    userDirectory := ← userDirectory
    workingDirectory := some (← IO.currentDir).toString }
  let outcome : Console.Outcome ← Console.Program.run words surroundings (← randomSupply)
  IO.print outcome.output
  unless outcome.complaint.isEmpty do IO.eprintln ("Error: " ++ outcome.complaint)
  pure outcome.exitCode.toUInt32
