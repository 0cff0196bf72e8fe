import Docstore.Files.Basic

/-!
# `Docstore.Files.Memory` — files and directories in memory

`Files` is a file system that is held in memory: files and directories around a working directory, by the
names on the way to them. Above the working directory there are directories too, of which nothing else is
known. The names on the way from the root begin with a slash.

## Contents
- **Nodes.** `FileNode`, `Files`, `Files.node?`.
- **Paths.** `Files.step` follows one part of a path, `Files.follow` all of them.
- **Changes.** `Files.makeAlong`, `Files.write`.
-/

namespace Docstore

/-! ## Nodes -/

/-- A file or a directory. -/
inductive FileNode where
  | file (bytes : ByteArray)
  | directory
deriving Inhabited

/-- Files and directories around a working directory, and the variables of the environment. -/
structure Files where
  /-- The path of the working directory. -/
  home : String
  /-- The nodes, each with the names on the way to it. -/
  nodes : List (List String × FileNode)
  environment : String → Option String

namespace Files

/-- The names on the way to the root. -/
def root : List String := ["/"]

/-- What is there on every machine: a directory for passing files and a file that is always empty. -/
def standardNodes : List (List String × FileNode) := [
  (root ++ ["tmp"], .directory), (root ++ ["dev"], .directory),
  (root ++ ["dev", "null"], .file ByteArray.empty)]

/-- A working directory without files. -/
def empty (home : String) (environment : String → Option String) : Files :=
  ⟨home, standardNodes, environment⟩

/-- The name of the directory above a directory. -/
def upward : String := ".."

/-- Do the names lead from the working directory to one above it, or nowhere? -/
def isAbove (names : List String) : Bool := names.all (· == upward)

/-- The names of the directory above. -/
def above (names : List String) : List String :=
  if names = root then root else if isAbove names then names ++ [upward] else names.dropLast

/-- The node at some names. -/
def node? (files : Files) (names : List String) : Option FileNode :=
  if isAbove names ∨ names = root then some .directory
  else (files.nodes.find? fun entry => entry.1 = names).map (·.2)

/-! ## Paths -/

/-- What is found at the end of a path, with the names on the way to it. -/
inductive Place where
  | directory (names : List String)
  | file (names : List String) (bytes : ByteArray)
  /-- Nothing, but in a directory that is there. -/
  | vacant (names : List String)
  | nowhere

/-- The most bytes of a name, and of a path. -/
def maxNameBytes : Nat := 255

@[inherit_doc maxNameBytes]
def maxPathBytes : Nat := 4095

/-- Follows one part of a path from a directory. -/
def step (files : Files) (names : List String) (part : List Char) : Place :=
  if isIdle part then .directory names
  else
    let name := String.ofList part
    if name = upward then .directory (above names)
    else if maxNameBytes < name.utf8ByteSize then .nowhere
    else
      let names := names ++ [name]
      match files.node? names with
      | some .directory => .directory names
      | some (.file bytes) => .file names bytes
      | none => .vacant names

/-- Follows the parts of a path from a directory. Only a directory leads further. -/
def follow (files : Files) (names : List String) : List (List Char) → Place
  | [] => .directory names
  | [part] => files.step names part
  | part :: rest =>
    match files.step names part with
    | .directory names => follow files names rest
    | _ => .nowhere

/-- Where a path begins, and its parts from there. A path that is empty, too long or has the zero character
leads nowhere. -/
def parts? (files : Files) (path : String) : Option (List String × List (List Char)) :=
  let home := files.home.toList
  let chars := path.toList
  if chars.isEmpty || maxPathBytes < path.utf8ByteSize || chars.contains '\x00' then none
  else if home.isPrefixOf chars then some ([], splitSlashes (chars.drop home.length))
  else some (if chars.head? = some '/' then root else [], splitSlashes chars)

/-- What a path leads to. -/
def locate (files : Files) (path : String) : Place :=
  match files.parts? path with
  | some (start, parts) => files.follow start parts
  | none => .nowhere

/-! ## Changes -/

/-- Adds a node, in the place of one that is there. -/
def put (files : Files) (names : List String) (node : FileNode) : Files :=
  { files with nodes := files.nodes.filter (fun entry => entry.1 ≠ names) ++ [(names, node)] }

/-- Does a path end in a dot, slashes aside? A directory named like that is never made. -/
def endsInDot (parts : List (List Char)) : Bool :=
  parts.all isIdle && parts.contains ['.']

/-- Makes the directories on the way along the parts of a path, as far as possible. The answer tells
whether all of them are there now. -/
def makeAlong (files : Files) (names : List String) : List (List Char) → Bool × Files
  | [] => (true, files)
  | part :: rest =>
    match files.step names part with
    | .directory names => makeAlong files names rest
    | .vacant names =>
      if endsInDot rest then (false, files) else makeAlong (files.put names .directory) names rest
    | _ => (false, files)

/-- Writes a file and makes the directories above it. -/
def write (files : Files) (path : String) (bytes : ByteArray) : Files :=
  match files.parts? path with
  | none => files
  | some (start, parts) =>
    let files := (files.makeAlong start parts.dropLast).2
    match files.follow start parts with
    | .vacant names | .file names _ => files.put names (.file bytes)
    | _ => files

/-- The names in a directory, in ascending order. -/
def list (files : Files) (path : String) : List String :=
  match files.locate path with
  | .directory names =>
    let inside := files.nodes.filterMap fun (other, _) =>
      if other.dropLast = names ∧ other ≠ [] then other.getLast? else none
    inside.mergeSort fun a b => compare a b != .gt
  | _ => []

end Files

instance : FileSystem (StateM Files) where
  read path := do
    match (← get).locate path with
    | .file _ bytes => pure (some bytes)
    | _ => pure none
  makeDirectories path := do
    if path.isEmpty then pure true
    else
      match (← get).parts? path with
      | none => pure false
      | some (start, parts) => modifyGet fun files => files.makeAlong start parts
  ensureFile path := do
    let files ← get
    match files.locate path with
    | .file _ _ => pure true
    | .vacant names => do
      set (files.put names (.file ByteArray.empty))
      pure true
    | _ => pure false
  environmentValue name := do pure ((← get).environment name)

end Docstore
