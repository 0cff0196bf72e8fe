/-!
# `Docstore.Files.Basic` — what is asked of a file system

`FileSystem` is what the command line asks of the machine it runs on: files to read, log files to make,
variables of the environment. Paths are texts whose parts stand between slashes.

## Contents
- **Requests.** `FileSystem`, `readText`.
- **Paths.** `splitSlashes`, `joinPath`, `parentPath`.
-/

namespace Docstore

/-! ## Requests -/

/-- What is asked of a file system and its surroundings. -/
class FileSystem (m : Type → Type) where
  /-- The bytes of a file, if it can be read. -/
  read : String → m (Option ByteArray)
  /-- Makes a directory and those above it. The answer tells whether it is there now. -/
  makeDirectories : String → m Bool
  /-- Makes an empty file if there is none. The answer tells whether there is a file now. -/
  ensureFile : String → m Bool
  /-- The value of a variable of the environment, if it is set. -/
  environmentValue : String → m (Option String)

/-- The text of a file, if it can be read and is text. -/
def readText {m : Type → Type} [Monad m] [FileSystem m] (path : String) : m (Option String) := do
  match ← FileSystem.read path with
  | some bytes => pure (String.fromUTF8? bytes)
  | none => pure none

/-! ## Paths -/

/-- Splits a path at the slashes. -/
def splitSlashes : List Char → List (List Char)
  | [] => [[]]
  | c :: rest =>
    if c = '/' then [] :: splitSlashes rest
    else
      match splitSlashes rest with
      | [] => [[c]]
      | first :: others => (c :: first) :: others

/-- Puts parts together with slashes between them. -/
def joinSlashes : List (List Char) → List Char
  | [] => []
  | [part] => part
  | part :: rest => part ++ '/' :: joinSlashes rest

theorem splitSlashes_ne_nil (cs : List Char) : splitSlashes cs ≠ [] := by
  fun_cases splitSlashes cs <;> simp_all

/-- Splitting at the slashes keeps every character. -/
theorem joinSlashes_splitSlashes (cs : List Char) : joinSlashes (splitSlashes cs) = cs := by
  induction cs with
  | nil => rfl
  | cons c rest ih =>
    cases hs : splitSlashes rest with
    | nil => exact absurd hs (splitSlashes_ne_nil rest)
    | cons first others =>
      rw [hs] at ih
      by_cases hc : c = '/'
      · simp [splitSlashes, hc, hs, joinSlashes, ih]
      · cases others <;> simp_all [splitSlashes, joinSlashes]

/-- Does a part lead nowhere else? Two slashes in a row have such a part between them. -/
def isIdle (part : List Char) : Bool := part = [] || part = ['.']

/-- A path below a directory. -/
def joinPath (directory name : String) : String :=
  if directory.isEmpty || directory.toList.getLast? = some '/' then directory ++ name
  else directory ++ "/" ++ name

/-- The path of the directory above; empty if the path has only one part. -/
def parentPath (path : String) : String :=
  let above := ((splitSlashes path.toList).reverse.dropWhile isIdle).drop 1
  String.ofList (joinSlashes (above.dropWhile isIdle).reverse)

end Docstore
