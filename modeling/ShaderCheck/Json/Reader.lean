import ShaderCheck.Json.Token

/-!
Reading JSON text. The reader is strict: nothing but JSON is accepted, numbers have to be within the range of
doubles, and arrays and objects may only be nested to a given depth.

A caller that asks for some fields of the outermost object has all others skipped. A skipped value is checked
for its grammar and for nothing else: it may be nested to any depth and hold any number or string.
-/

namespace ShaderCheck.Json

/-- What a reader accepts beyond the grammar. -/
structure Limits where
  /-- How deep arrays and objects may be nested. -/
  depth : Nat
  /-- Which fields of the outermost object are read. -/
  wanted : String → Bool

/-- A value that has been opened and not yet closed. Items and fields are collected in reverse, and a field
waits under its key for its value. -/
inductive Frame where
  | array (items : List Json)
  | object (fields : List (String × Json)) (key : String)
  | skippedArray
  | skippedObject

inductive Expecting where
  /-- A value, or the end of the array that was just opened. -/
  | itemOrEnd
  | value
  /-- A key, or the end of the object that was just opened. -/
  | keyOrEnd
  | key
  | colon
  /-- What stands behind a value: a comma, the end of what it is in, or of the text. -/
  | separator
  deriving DecidableEq

structure State where
  /-- The values that are open, the innermost first. -/
  stack : List Frame := []
  expecting : Expecting := .value
  /-- The outermost value, once it is complete. -/
  result : Option Json := none

namespace State

/-- Whether the value that comes next is skipped: it is inside a skipped one, or it is a field of the outermost
object that nobody asked for. -/
def skips (limits : Limits) (s : State) : Bool :=
  match s.stack with
  | .skippedArray :: _ | .skippedObject :: _ => true
  | [.object _ key] => !limits.wanted key
  | _ => false

/-- A value is complete, and goes where it belongs. A skipped one goes nowhere. -/
def complete (s : State) (value : Option Json) : State :=
  match s.stack, value with
  | [], _ => { s with result := value, expecting := .separator }
  | .array items :: rest, some item =>
    { s with stack := .array (item :: items) :: rest, expecting := .separator }
  | .object fields key :: rest, some field =>
    { s with stack := .object ((key, field) :: fields) key :: rest, expecting := .separator }
  | _, _ => { s with expecting := .separator }

def leaf (limits : Limits) (s : State) (value : Option Json) : Option State :=
  if s.skips limits then some (s.complete none) else value.map fun v => s.complete (some v)

def openFrame (limits : Limits) (s : State) (frame skipped : Frame) (next : Expecting) : Option State :=
  if s.skips limits then some { s with stack := skipped :: s.stack, expecting := next }
  else if s.stack.length < limits.depth then
    some { s with stack := frame :: s.stack, expecting := next }
  else none

def closeFrame (s : State) (brace : Bool) : Option State :=
  match s.stack, brace with
  | .array items :: rest, false => some ({ s with stack := rest }.complete (some (.array items.reverse)))
  | .object fields _ :: rest, true => some ({ s with stack := rest }.complete (some (.object fields.reverse)))
  | .skippedArray :: rest, false => some ({ s with stack := rest }.complete none)
  | .skippedObject :: rest, true => some ({ s with stack := rest }.complete none)
  | _, _ => none

def readValue (limits : Limits) (s : State) : Token → Option State
  | .null => s.leaf limits (some .null)
  | .bool value => s.leaf limits (some (.bool value))
  | .number value => s.leaf limits (if value.isFinite then some (.number value) else none)
  | .string value => s.leaf limits (value.map .string)
  | .openBracket => s.openFrame limits (.array []) .skippedArray .itemOrEnd
  | .openBrace => s.openFrame limits (.object [] "") .skippedObject .keyOrEnd
  | _ => none

def readKey (s : State) (key : Option String) : Option State :=
  match s.stack with
  | .object fields _ :: rest =>
    key.map fun key => { s with stack := .object fields key :: rest, expecting := .colon }
  | _ => some { s with expecting := .colon }

def step (limits : Limits) (s : State) (token : Token) : Option State :=
  match s.expecting, token with
  | .itemOrEnd, .closeBracket => s.closeFrame false
  | .itemOrEnd, token => s.readValue limits token
  | .value, token => s.readValue limits token
  | .keyOrEnd, .closeBrace => s.closeFrame true
  | .keyOrEnd, .string key => s.readKey key
  | .key, .string key => s.readKey key
  | .colon, .colon => some { s with expecting := .value }
  | .separator, .comma =>
    match s.stack with
    | .array _ :: _ | .skippedArray :: _ => some { s with expecting := .value }
    | .object .. :: _ | .skippedObject :: _ => some { s with expecting := .key }
    | [] => none
  | .separator, .closeBracket => s.closeFrame false
  | .separator, .closeBrace => s.closeFrame true
  | _, _ => none

end State

def read? (limits : Limits) (text : String) : Option Json := do
  let tokens ← tokens? text
  let final ← tokens.foldlM (State.step limits) {}
  if final.stack.isEmpty then final.result else none

end ShaderCheck.Json
