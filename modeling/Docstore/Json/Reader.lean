import Docstore.Json.Number

/-!
# `Docstore.Json.Reader` — reading JSON text

The reader is a machine that takes one character at a time. Its state is a stack of the arrays and
objects that are still open, and what it is in the middle of. `read?` runs it over a text and asks
whether it came to rest after exactly one value.

## Contents
- **States.** `Frame`, `Focus`, `State`.
- **Values.** `close` puts a finished value where it belongs.
- **Steps.** One function per focus, and `step` over all of them.
- **Texts.** `read?`.
-/

namespace Docstore.Json

/-! ## States -/

/-- An array or object that is still open, its contents in reverse order. -/
inductive Frame where
  | array (items : List Json)
  | object (members : List (String × Json)) (key : String)

/-- Where a text that is being read will go. -/
inductive TextRole where
  | key | value
deriving DecidableEq

/-- What the reader is in the middle of. -/
inductive Focus where
  /-- A value has to come. -/
  | value
  /-- A value or the end of an empty array has to come. -/
  | firstItem
  /-- A key or the end of an empty object has to come. -/
  | firstKey
  /-- A key has to come. -/
  | key
  /-- The colon after a key has to come. -/
  | colon
  /-- A comma or the end of the innermost array or object has to come. -/
  | separator
  /-- Inside a text, its characters so far in reverse order. -/
  | text (role : TextRole) (read : List Char)
  /-- After a backslash. -/
  | escape (role : TextRole) (read : List Char)
  /-- Inside the four digits of an escape; `high` is a first surrogate still without a second. -/
  | codeUnit (role : TextRole) (read : List Char) (high : Option Nat) (left : Nat) (value : Nat)
  /-- After a first surrogate, where a second escape has to come; `slash` once its backslash came. -/
  | pair (role : TextRole) (read : List Char) (high : Nat) (slash : Bool)
  /-- Inside a number, its characters in reverse order. -/
  | number (read : List Char)
  /-- Inside a literal name. -/
  | word (left : List Char) (result : Json)
  /-- The value is complete. -/
  | done (result : Json)

/-- The state of the reader: open arrays and objects, innermost first, and the focus. -/
structure State where
  frames : List Frame
  focus : Focus

/-- How deep arrays and objects may nest. -/
def maxDepth : Nat := 127

/-- The reader before the first character. -/
def State.start : State := ⟨[], .value⟩

/-- The characters that may stand between the parts of a value. -/
def isBlank (c : Char) : Bool := c == ' ' || c == '\n' || c == '\t' || c == '\r'

/-! ## Values -/

/-- Puts a member in front of the members read so far, or in the place of one of the same name. -/
def addMember (key : String) (value : Json) (members : List (String × Json)) :
    List (String × Json) :=
  if Entries.has key members then Entries.insert key value members else (key, value) :: members

/-- Puts a finished value into the innermost open frame. -/
def close (value : Json) : List Frame → State
  | [] => ⟨[], .done value⟩
  | .array items :: rest => ⟨.array (value :: items) :: rest, .separator⟩
  | .object members key :: rest => ⟨.object (addMember key value members) key :: rest, .separator⟩

/-- Opens an array or object, if the nesting allows. -/
def enter? (frame : Frame) (focus : Focus) (frames : List Frame) : Option State :=
  if frames.length < maxDepth then some ⟨frame :: frames, focus⟩ else none

/-- Finishes a text. -/
def closeText (role : TextRole) (read : List Char) (frames : List Frame) : Option State :=
  let text := String.ofList read.reverse
  match role, frames with
  | .value, _ => some (close (.string text) frames)
  | .key, .object members _ :: rest => some ⟨.object members text :: rest, .colon⟩
  | .key, _ => none

/-! ## Steps -/

/-- The first character of a value. -/
def stepValue (c : Char) (frames : List Frame) : Option State :=
  match c with
  | '"' => some ⟨frames, .text .value []⟩
  | '[' => enter? (.array []) .firstItem frames
  | '\x7b' => enter? (.object [] "") .firstKey frames
  | 't' => some ⟨frames, .word ['r', 'u', 'e'] (.bool true)⟩
  | 'f' => some ⟨frames, .word ['a', 'l', 's', 'e'] (.bool false)⟩
  | 'n' => some ⟨frames, .word ['u', 'l', 'l'] .null⟩
  | c => if c = '-' || (Text.digit? c).isSome then some ⟨frames, .number [c]⟩ else none

/-- The character after a value inside an array or object. -/
def stepSeparator (c : Char) : List Frame → Option State
  | .array items :: rest =>
    if c = ',' then some ⟨.array items :: rest, .value⟩
    else if c = ']' then some (close (.array items.reverse) rest)
    else none
  | .object members key :: rest =>
    if c = ',' then some ⟨.object members key :: rest, .key⟩
    else if c = '\x7d' then some (close (.object members.reverse) rest)
    else none
  | [] => none

/-- A character between values, where blanks do not count. -/
def stepOutside (focus : Focus) (c : Char) (frames : List Frame) : Option State :=
  if isBlank c then some ⟨frames, focus⟩
  else
    match focus with
    | .value => stepValue c frames
    | .firstItem => if c = ']' then stepSeparator c frames else stepValue c frames
    | .firstKey =>
      if c = '\x7d' then stepSeparator c frames
      else if c = '"' then some ⟨frames, .text .key []⟩
      else none
    | .key => if c = '"' then some ⟨frames, .text .key []⟩ else none
    | .colon => if c = ':' then some ⟨frames, .value⟩ else none
    | .separator => stepSeparator c frames
    | _ => none

/-- A character inside a text. -/
def stepText (role : TextRole) (read : List Char) (c : Char) (frames : List Frame) : Option State :=
  if c = '"' then closeText role read frames
  else if c = '\\' then some ⟨frames, .escape role read⟩
  else if c.toNat < 32 then none
  else some ⟨frames, .text role (c :: read)⟩

/-- The character a one-letter escape stands for. -/
def escaped? : Char → Option Char
  | '"' => some '"'
  | '\\' => some '\\'
  | '/' => some '/'
  | 'b' => some '\x08'
  | 'f' => some '\x0c'
  | 'n' => some '\n'
  | 'r' => some '\r'
  | 't' => some '\t'
  | _ => none

/-- The character after a backslash. -/
def stepEscape (role : TextRole) (read : List Char) (c : Char) (frames : List Frame) :
    Option State :=
  if c = 'u' then some ⟨frames, .codeUnit role read none 4 0⟩
  else (escaped? c).map fun e => ⟨frames, .text role (e :: read)⟩

/-- What a complete code unit means: a character, a first surrogate, or, after a first surrogate, the
character of the pair. -/
def closeUnit (role : TextRole) (read : List Char) (high : Option Nat) (unit : Nat)
    (frames : List Frame) : Option State :=
  match high with
  | some first =>
    if 0xDC00 ≤ unit && unit ≤ 0xDFFF then
      let code := 0x10000 + (first - 0xD800) * 0x400 + (unit - 0xDC00)
      some ⟨frames, .text role (Char.ofNat code :: read)⟩
    else none
  | none =>
    if 0xD800 ≤ unit && unit ≤ 0xDBFF then some ⟨frames, .pair role read unit false⟩
    else if 0xDC00 ≤ unit && unit ≤ 0xDFFF then none
    else some ⟨frames, .text role (Char.ofNat unit :: read)⟩

/-- A digit of a code unit. -/
def stepUnit (role : TextRole) (read : List Char) (high : Option Nat) (left value : Nat) (c : Char)
    (frames : List Frame) : Option State :=
  match Text.hexDigit? c with
  | none => none
  | some d =>
    let value := 16 * value + d
    if left ≤ 1 then closeUnit role read high value frames
    else some ⟨frames, .codeUnit role read high (left - 1) value⟩

/-- One of the two characters between the surrogates of a pair. -/
def stepPair (role : TextRole) (read : List Char) (high : Nat) (slash : Bool) (c : Char)
    (frames : List Frame) : Option State :=
  if slash then
    if c = 'u' then some ⟨frames, .codeUnit role read (some high) 4 0⟩ else none
  else if c = '\\' then some ⟨frames, .pair role read high true⟩
  else none

/-- A character after a complete value. -/
def stepAfter (s : State) (c : Char) : Option State :=
  match s.focus with
  | .done _ => if isBlank c then some s else none
  | _ => stepOutside s.focus c s.frames

/-- The characters that a number is made of. -/
def isNumberChar (c : Char) : Bool :=
  (Text.digit? c).isSome || c == '-' || c == '+' || c == '.' || c == 'e' || c == 'E'

/-- Finishes a number. -/
def closeNumber (read : List Char) (frames : List Frame) : Option State :=
  (number? read.reverse).map fun n => close n frames

/-- One character. -/
def step (s : State) (c : Char) : Option State :=
  match s.focus with
  | .text role read => stepText role read c s.frames
  | .escape role read => stepEscape role read c s.frames
  | .codeUnit role read high left value => stepUnit role read high left value c s.frames
  | .pair role read high slash => stepPair role read high slash c s.frames
  | .number read =>
    if isNumberChar c then some ⟨s.frames, .number (c :: read)⟩
    else (closeNumber read s.frames).bind fun after => stepAfter after c
  | .word (expected :: left) result =>
    if c = expected then
      if left.isEmpty then some (close result s.frames) else some ⟨s.frames, .word left result⟩
    else none
  | .word [] _ => none
  | _ => stepAfter s c

/-! ## Texts -/

/-- Takes the characters in turn and stops at the first that has no place. -/
def run (s : State) : List Char → Option State
  | [] => some s
  | c :: rest =>
    match step s c with
    | some next => run next rest
    | none => none

/-- The value of a text, if the text is exactly one value. -/
def read? (text : String) : Option Json :=
  match run .start text.toList with
  | some ⟨_, .done result⟩ => some result
  | some ⟨[], .number read⟩ => number? read.reverse
  | _ => none

end Docstore.Json
