import ShaderCheck.Scope

/-!
The state of checking a document: what is in force, and what has been noted so far. A fault ends a step but keeps the
state it was reached in.
-/

namespace ShaderCheck

structure Context where
  env : Env := {}
  notes : Notes := {}
  deriving DecidableEq, Inhabited

abbrev Analysis (α : Type) : Type := ExceptT Fault (StateM Context) α

namespace Context

def incidents (context : Context) : List Incident := context.notes.incidents

/-- The names that were used so far, each once, in the order of their characters. -/
def usedNames (context : Context) : List String :=
  context.notes.used.eraseDups.mergeSort fun a b => decide (a ≤ b)

end Context

namespace Analysis

def run {α : Type} (step : Analysis α) (context : Context) : Except Fault α × Context := step context

def env : Analysis Env := fun context => (.ok context.env, context)

def update (change : Env → Except Fault Env) : Analysis Unit := fun context =>
  match change context.env with
  | .ok env => (.ok (), { context with env })
  | .error fault => (.error fault, context)

def note {α : Type} (step : Env → Noted α) : Analysis α := fun context =>
  let result := step context.env
  (.ok result.value, { context with notes := context.notes ++ result.notes })

/-- Checks something that may change what is in force or end in a fault, and keeps its notes either way. -/
def attempt {α : Type} (step : Env → Attempt (α × Env)) : Analysis α := fun context =>
  let result : Noted (Except Fault (α × Env)) := step context.env
  let notes := context.notes ++ result.notes
  match result.value with
  | .ok (value, env) => (.ok value, ⟨env, notes⟩)
  | .error fault => (.error fault, { context with notes })

/-- Runs a step inside a scope of its own, which is closed again however the step ends. -/
def inScope {α : Type} (kind : ScopeKind) (owner : ScopeOwner) (step : Analysis α) : Analysis α :=
  fun context =>
    match context.env.openScope kind owner with
    | .ok env =>
      let (result, after) := run step { context with env }
      (result, { after with env := after.env.closeScope })
    | .error fault => (.error fault, context)

end Analysis

end ShaderCheck
