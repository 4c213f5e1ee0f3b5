import ShaderCheck.Check.Document
import ShaderCheck.Folder
import ShaderCheck.Json.Reader
import ShaderCheck.Report
import ShaderCheck.Source.Reader

/-!
The command line: `version` tells what the program is, `check` reads a document and reports on it.
-/

namespace ShaderCheck

/-- How deep a document's text may nest arrays and objects. -/
def Document.nesting : Nat := 127

def Document.parse? (text : String) : Option Document :=
  (Json.read? ⟨nesting, fieldNames.contains⟩ text).bind ofJson?

inductive Command where
  | version
  | check (path : String) (json : Bool) (limit : Option Nat)
  deriving DecidableEq

namespace Command

structure Options where
  path : Option String := none
  json : Bool := false
  limit : Option Nat := none

def count? (text : String) : Option Nat :=
  let digits := match text.toList with
    | '+' :: digits => digits
    | digits => digits
  if digits.isEmpty then none else (digitsValue? 10 digits).filter (· < UInt64.size)

namespace Options

/-- Only one file is checked at a time. -/
def setPath? (options : Options) (path : String) : Option Options :=
  if options.path.isSome || path.isEmpty then none else some { options with path := some path }

def setJson? (options : Options) : Option Options :=
  if options.json then none else some { options with json := true }

def setLimit? (options : Options) (count : String) : Option Options :=
  if options.limit.isSome then none
  else (count? count).map fun limit => { options with limit := some limit }

end Options

def attachedLimit? (argument : String) : Option String :=
  let mark := "--max-incidents=".toList
  if mark.isPrefixOf argument.toList then some (String.ofList (argument.toList.drop mark.length))
  else none

/-- Reads the arguments of `check`. Options may stand on either side of the file, and behind `--` everything is
a file. -/
def readOptions (options : Options) : List String → Option Options
  | [] => some options
  | "--" :: rest => rest.foldlM Options.setPath? options
  | "--json" :: rest => options.setJson?.bind (readOptions · rest)
  | "--max-incidents" :: count :: rest => (options.setLimit? count).bind (readOptions · rest)
  | argument :: rest =>
    match attachedLimit? argument with
    | some count => (options.setLimit? count).bind (readOptions · rest)
    | none =>
      if argument.startsWith "-" && argument ≠ "-" then none
      else (options.setPath? argument).bind (readOptions · rest)

def parse? : List String → Option Command
  | ["version"] => some .version
  | "check" :: rest => do
    let options ← readOptions {} rest
    let path ← options.path
    some (.check path options.json options.limit)
  | _ => none

structure Outcome where
  exit : Nat
  output : String := ""
  errors : String := ""
  deriving DecidableEq

def failed (exit : Nat) (message : String) : Outcome := { exit, errors := "Error: " ++ message ++ "\n" }

def present (report : Report) (json : Bool) (limit : Option Nat) : Outcome where
  exit := if report.success then 0 else 1
  output :=
    (if json then report.json.write
      else if report.success then "No incidents found"
      else report.text limit) ++ "\n"

def exitCode : Fault → Nat
  | .numberingOverflow => 101
  | _ => 2

/-- What came of a command, before the time it took is known. -/
inductive Examined where
  | ended (outcome : Outcome)
  | checked (path : String) (json : Bool) (limit : Option Nat) (context : Context) (counts : Counts)

def Examined.outcome (elapsed : Nat) : Examined → Outcome
  | .ended outcome => outcome
  | .checked path json limit context counts =>
    present (.ofContext path context counts elapsed) json limit

def examine (file : Except ReadError String) : Command → Examined
  | .version => .ended { exit := 0, output := "pgslc 0.1.0\nPGSL semantic checker\n" }
  | .check path json limit =>
    match file with
    | .error error => .ended (failed 2 ("reading " ++ path ++ ": " ++ error.message))
    | .ok text =>
      match Document.parse? text with
      | none => .ended (failed 2 ("parsing syntax tree " ++ path))
      | some document =>
        match Analysis.run document.check {} with
        | (.ok typed, context) => .checked path json limit context typed.counts
        | (.error fault, _) => .ended (failed (exitCode fault) fault.message)

def path? : Command → Option String
  | .version => none
  | .check path _ _ => some path

def misused : Outcome :=
  { exit := 2, errors := "Usage: pgslc check [--json] [--max-incidents N] FILE, or pgslc version\n" }

def runIn (folder : Folder) (arguments : List String) : Outcome :=
  match parse? arguments with
  | none => misused
  | some command =>
    let file := match command.path? with
      | none => .ok ""
      | some path => folder.read path
    (command.examine file).outcome 0

end Command

end ShaderCheck
