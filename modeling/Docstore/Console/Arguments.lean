import Docstore.Text.Numeral

/-!
# `Docstore.Console.Arguments` — reading the command line

A command line has options, then the name of a command, then the options and operands of that command.
`Invocation.parse` reads it, or finds that help or the version is asked for, or that the command line
is wrong.

## Contents
- **Levels.** `Level` lists the options and operands that are known before and after the command's
  name; `Level.scan` sorts words into them.
- **Commands.** `Verb` names the commands, `Invocation.parse` reads a command line.
-/

namespace Docstore.Console

/-! ## Levels -/

/-- Something with a value on the command line. -/
structure Slot where
  name : String
  /-- May the value be empty? A path may not. -/
  allowsEmpty : Bool
deriving DecidableEq, Repr

/-- The options and operands of one level of the command line. -/
structure Level where
  options : List Slot
  operands : List Slot
  /-- The number of operands that must be there. -/
  required : Nat
  /-- Does the level know the option that asks for the version? -/
  knowsVersion : Bool
deriving Repr

/-- Why reading ends before the end of the command line. -/
inductive Halt where
  | help
  | version
  | misuse (complaint : String)
deriving DecidableEq, Repr

/-- The options and operands that have been read. -/
structure Scanned where
  options : List (String × String)
  operands : List String
deriving DecidableEq, Repr

namespace Scanned

/-- Nothing read. -/
def empty : Scanned := ⟨[], []⟩

/-- The value of an option. -/
def option? (scanned : Scanned) (name : String) : Option String :=
  (scanned.options.find? fun entry => entry.1 = name).map (·.2)

end Scanned

/-- Does a word begin like an option? A single dash does not. -/
def isOptionWord (word : String) : Bool := Text.beginsWith '-' word && word ≠ "-"

/-- The name and the attached value of a long option. -/
def longOption? (word : String) : Option (String × Option String) :=
  match word.toList with
  | '-' :: '-' :: rest =>
    let name := String.ofList (rest.takeWhile (· ≠ '='))
    match rest.dropWhile (· ≠ '=') with
    | _ :: value => some (name, some (String.ofList value))
    | [] => some (name, none)
  | _ => none

namespace Level

/-- The option of a name. -/
def option? (level : Level) (name : String) : Option Slot :=
  level.options.find? fun slot => slot.name = name

/-- Takes the value of an option, which is given once. -/
def addOption (scanned : Scanned) (slot : Slot) (value : String) : Except Halt Scanned :=
  if (scanned.option? slot.name).isSome then
    .error (.misuse ("--" ++ slot.name ++ " cannot be used multiple times"))
  else if value.isEmpty && !slot.allowsEmpty then
    .error (.misuse ("--" ++ slot.name ++ " needs a value"))
  else .ok { scanned with options := scanned.options ++ [(slot.name, value)] }

/-- Takes the next operand. -/
def addOperand (level : Level) (scanned : Scanned) (value : String) : Except Halt Scanned :=
  match level.operands[scanned.operands.length]? with
  | none => .error (.misuse ("unexpected argument '" ++ value ++ "'"))
  | some slot =>
    if value.isEmpty && !slot.allowsEmpty then
      .error (.misuse (slot.name ++ " needs a value"))
    else .ok { scanned with operands := scanned.operands ++ [value] }

/-- Takes all words as operands. -/
def addOperands (level : Level) (scanned : Scanned) : List String → Except Halt Scanned
  | [] => .ok scanned
  | word :: rest => do addOperands level (← level.addOperand scanned word) rest

/-- Why an option that takes no value, or is not known, ends the reading. -/
def haltAt (level : Level) (name : String) (attached : Option String) : Halt :=
  match attached with
  | some _ => .misuse ("unexpected argument '--" ++ name ++ "'")
  | none =>
    if name = "help" then .help
    else if name = "version" ∧ level.knowsVersion then .version
    else .misuse ("unexpected argument '--" ++ name ++ "'")

/-- Why a word with a single dash ends the reading. -/
def haltAtShort (level : Level) (word : String) : Halt :=
  match word.toList with
  | _ :: 'h' :: _ => .help
  | _ :: 'V' :: _ => if level.knowsVersion then .version else .misuse "unexpected argument '-V'"
  | _ => .misuse ("unexpected argument '" ++ word ++ "'")

/-- Sorts words into options and operands. It stops at the first word that `stops` and gives it back with
the words after it. -/
def scan (level : Level) (stops : String → Bool) (scanned : Scanned) :
    List String → Except Halt (Scanned × List String)
  | [] => .ok (scanned, [])
  | word :: rest =>
    if word = "--" then do pure (← level.addOperands scanned rest, [])
    else
      match longOption? word with
      | some (name, attached) =>
        match level.option? name, attached, rest with
        | none, attached, _ => .error (level.haltAt name attached)
        | some slot, some value, rest => do scan level stops (← addOption scanned slot value) rest
        | some slot, none, [] => .error (.misuse ("--" ++ slot.name ++ " needs a value"))
        | some slot, none, value :: rest =>
          if isOptionWord value then .error (.misuse ("--" ++ slot.name ++ " needs a value"))
          else do scan level stops (← addOption scanned slot value) rest
      | none =>
        if isOptionWord word then .error (level.haltAtShort word)
        else if stops word then .ok (scanned, word :: rest)
        else do scan level stops (← level.addOperand scanned word) rest

end Level

/-! ## Commands -/

/-- The commands by name. -/
inductive Verb where
  | aggregate | insert | load | collections | info | metrics
deriving DecidableEq, Repr

namespace Verb

/-- All commands. -/
def all : List Verb := [aggregate, insert, load, collections, info, metrics]

/-- The name of a command. -/
def name : Verb → String
  | aggregate => "aggregate"
  | insert => "insert"
  | load => "load"
  | collections => "collections"
  | info => "info"
  | metrics => "metrics"

/-- The command of a name. -/
def ofName? (word : String) : Option Verb :=
  if word = "list-collections" then some collections else all.find? fun verb => verb.name = word

/-- What a command takes. -/
def level : Verb → Level
  | aggregate =>
    ⟨[⟨"pipeline", true⟩, ⟨"now", true⟩], [⟨"COLLECTION", true⟩, ⟨"PIPELINE_FILE", false⟩], 1, false⟩
  | insert => ⟨[], [⟨"COLLECTION", true⟩, ⟨"JSON", true⟩], 2, false⟩
  | load => ⟨[], [⟨"FILE", false⟩], 1, false⟩
  | collections | info | metrics => ⟨[], [], 0, false⟩

end Verb

/-- What is asked for on the command line. -/
inductive Request where
  | aggregate (collection : String) (file pipeline now : Option String)
  | insert (collection document : String)
  | load (path : String)
  | collections
  | info
  | metrics
deriving DecidableEq, Repr

/-- A command line. -/
structure Invocation where
  config : Option String
  data : Option String
  logDirectory : Option String
  logLevel : Option String
  format : Option String
  request : Request
deriving DecidableEq, Repr

/-- What a command line that does not run a command asks for. -/
inductive Refusal where
  /-- Help on a command, or on all of them. -/
  | help (verb : Option Verb)
  | version
  | misuse (complaint : String)
deriving DecidableEq, Repr

/-- The options before the name of the command. -/
def topLevel : Level :=
  ⟨[⟨"config", false⟩, ⟨"data", false⟩, ⟨"log-dir", false⟩, ⟨"log-level", true⟩, ⟨"format", true⟩],
    [], 0, true⟩

/-- The refusal that a halt amounts to. -/
def Halt.refusal (verb : Option Verb) : Halt → Refusal
  | help => .help verb
  | version => .version
  | misuse complaint => .misuse complaint

/-- Help on what the words after `help` name. -/
def helpRequest : List String → Refusal
  | [] => .help none
  | [word] =>
    match Verb.ofName? word with
    | some verb => .help (some verb)
    | none => if word = "help" then .help none else .misuse ("no command '" ++ word ++ "'")
  | _ => .misuse "too many commands to help with"

/-- The request of a command, from its options and operands. -/
def Request.ofScanned (verb : Verb) (scanned : Scanned) : Except Refusal Request :=
  let missing := .error (.misuse ("'" ++ verb.name ++ "' needs more arguments"))
  match verb, scanned.operands with
  | .aggregate, collection :: rest =>
    let file := rest.head?
    let pipeline := scanned.option? "pipeline"
    if file.isSome && pipeline.isSome then
      .error (.misuse "--pipeline cannot be used with a pipeline file")
    else .ok (.aggregate collection file pipeline (scanned.option? "now"))
  | .insert, [collection, document] => .ok (.insert collection document)
  | .load, [path] => .ok (.load path)
  | .collections, _ => .ok .collections
  | .info, _ => .ok .info
  | .metrics, _ => .ok .metrics
  | _, _ => missing

/-- Reads the options and operands of a command. -/
def Request.parse (verb : Verb) (words : List String) : Except Refusal Request :=
  match verb.level.scan (fun _ => false) .empty words with
  | .error halt => .error (halt.refusal (some verb))
  | .ok (scanned, _) => ofScanned verb scanned

/-- Reads a command line. -/
def Invocation.parse (words : List String) : Except Refusal Invocation :=
  match topLevel.scan (fun _ => true) .empty words with
  | .error halt => .error (halt.refusal none)
  | .ok (_, []) => .error (.misuse "a command is required")
  | .ok (scanned, word :: rest) =>
    if word = "help" then .error (helpRequest rest)
    else
      match Verb.ofName? word with
      | none => .error (.misuse ("no command '" ++ word ++ "'"))
      | some verb => do
        pure {
          config := scanned.option? "config"
          data := scanned.option? "data"
          logDirectory := scanned.option? "log-dir"
          logLevel := scanned.option? "log-level"
          format := scanned.option? "format"
          request := ← Request.parse verb rest }

end Docstore.Console
