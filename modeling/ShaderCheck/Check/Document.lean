import ShaderCheck.Check.Decl
import ShaderCheck.Context
import ShaderCheck.Symbol.Builtin

/-!
The checking of whole documents.

The declarations of a document are checked in rounds, each in the order they are written in: enums; structs and aliases;
the signatures of functions; global variables; the bodies of functions. So a body may use whatever the document
declares, wherever it stands.
-/

namespace ShaderCheck

inductive Round where
  | enums
  | layouts
  | globals
  | bodies
  deriving DecidableEq

def Decl.round : Decl → Round
  | .enumeration _ => .enums
  | .struct _ | .alias _ => .layouts
  | .variable _ => .globals
  | .function _ => .bodies

namespace Document

/-- A declaration, with its facts once its round has come. -/
structure Slot where
  declaration : Decl
  typed : Option TypedDecl := none

def runRound (round : Round) : List Slot → Analysis (List Slot)
  | [] => pure []
  | slot :: rest => do
    if slot.declaration.round = round then
      let typed ← Analysis.attempt fun env => slot.declaration.check env
      let rest ← runRound round rest
      return { slot with typed := some typed } :: rest
    else
      let rest ← runRound round rest
      return slot :: rest

def collectSignatures (env : Env) : List Decl → Noted Env
  | [] => pure env
  | .function declaration :: rest => do
    let env ← declaration.collectSignature env
    collectSignatures env rest
  | _ :: rest => collectSignatures env rest

def counts (document : Document) : Counts where
  functions := document.declarations.countP (·.round = .bodies)
  types := document.declarations.countP fun declaration =>
    declaration.round = .enums || declaration.round = .layouts
  globals := document.declarations.countP (·.round = .globals)

/-- Checks a document. It becomes the document of the context, which must not have one yet. -/
def check (document : Document) : Analysis TypedDocument := do
  Analysis.update (·.setDocument ⟨.document, document.range⟩)
  Analysis.update fun env => .ok { env with symbols := Builtin.register env.symbols }
  let slots ← runRound .enums (document.declarations.map fun declaration => { declaration })
  let slots ← runRound .layouts slots
  Analysis.attempt fun env => do
    let env ← collectSignatures env document.declarations
    return ((), env)
  let slots ← runRound .globals slots
  let slots ← runRound .bodies slots
  return ⟨document.range, document.counts, slots.filterMap (·.typed)⟩

end Document

end ShaderCheck
