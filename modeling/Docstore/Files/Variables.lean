import Docstore.Files.Basic
import Docstore.Text.Alphanumeric

/-!
# `Docstore.Files.Variables` — variables in paths

A path may name variables of the environment as `$ENV{NAME}`. `expandVariables` writes the value of each
in the place of its name; a variable that is not set stays as it is written.

## Contents
- **Names.** `variableName?` reads one name, `variableNames` finds all of them.
- **Values.** `replaceAll`, `substitute`, `expandVariables`.
-/

namespace Docstore

/-! ## Names -/

/-- What stands before the name of a variable. -/
def variableOpening : List Char := ['$', 'E', 'N', 'V', '\x7b']

/-- What stands after the name of a variable. -/
def variableClosing : Char := '\x7d'

/-- Can a name begin with this character? -/
def beginsName (c : Char) : Bool := Text.isAlphanumeric c || c = '_'

/-- Can a name go on with this character? -/
def continuesName (c : Char) : Bool := beginsName c || c = '.'

/-- The name that is closed right after it. -/
def variableName? (cs : List Char) : Option (List Char) :=
  let name := cs.takeWhile continuesName
  match name.head?, (cs.dropWhile continuesName).head? with
  | some first, some last => if beginsName first && last = variableClosing then some name else none
  | _, _ => none

/-- The names of the variables in a path, in order. -/
def variableNames : List Char → List (List Char)
  | [] => []
  | c :: rest =>
    if variableOpening.isPrefixOf (c :: rest) then
      (variableName? ((c :: rest).drop variableOpening.length)).toList ++ variableNames rest
    else variableNames rest

/-! ## Values -/

/-- Replaces a text wherever it occurs, the first `skipped` characters left out. -/
def replaceFrom (old new : List Char) : Nat → List Char → List Char
  | _, [] => []
  | skipped + 1, _ :: rest => replaceFrom old new skipped rest
  | 0, c :: rest =>
    if old.isPrefixOf (c :: rest) then new ++ replaceFrom old new (old.length - 1) rest
    else c :: replaceFrom old new 0 rest

/-- Replaces a text wherever it occurs. -/
def replaceAll (old new cs : List Char) : List Char := replaceFrom old new 0 cs

/-- Writes the values of some variables in the place of their names, one variable after the other. -/
def substitute (path : List Char) : List (List Char × Option String) → List Char
  | [] => path
  | (_, none) :: rest => substitute path rest
  | (name, some value) :: rest =>
    substitute (replaceAll (variableOpening ++ name ++ [variableClosing]) value.toList path) rest

/-- The path that a path with variables stands for. -/
def expandVariables {m : Type → Type} [Monad m] [FileSystem m] (path : String) : m String := do
  let values ← (variableNames path.toList).mapM fun name => do
    pure (name, ← FileSystem.environmentValue (String.ofList name))
  pure (String.ofList (substitute path.toList values))

end Docstore
