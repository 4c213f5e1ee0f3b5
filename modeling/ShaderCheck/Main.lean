import ShaderCheck.Command

/-!
The program: reads the file that a command names, and writes what the command says.
-/

open ShaderCheck

/-- The cause of a failed reading. An error number is the system's own, or its negative. -/
def readError : IO.Error → ReadError
  | .noFileOrDirectory .. => .notFound
  | .permissionDenied .. => .permissionDenied
  | .inappropriateType _ number _ => if number = 21 ∨ number = -21 then .isFolder else .notFolder
  | .invalidArgument _ number details =>
    if number = 36 ∨ number = -36 then .nameTooLong else .other details
  | error => .other (toString error)

def readSource (path : String) : IO (Except ReadError String) := do
  try
    match String.fromUTF8? (← IO.FS.readBinFile path) with
    | some text => return .ok text
    | none => return .error .notText
  catch error =>
    return .error (readError error)

def carryOut (command : Command) : IO Command.Outcome := do
  let source ← match command.path? with
    | none => pure (.ok "")
    | some path => readSource path
  let started ← IO.monoMsNow
  let examined ← IO.lazyPure fun _ => command.examine source
  let finished ← IO.monoMsNow
  return examined.outcome (finished - started)

def main (arguments : List String) : IO UInt32 := do
  let outcome ← match Command.parse? arguments with
    | none => pure Command.misused
    | some command => carryOut command
  (← IO.getStdout).putStr outcome.output
  (← IO.getStderr).putStr outcome.errors
  return UInt32.ofNat outcome.exit
