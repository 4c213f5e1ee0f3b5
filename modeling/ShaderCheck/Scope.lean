import ShaderCheck.Noted
import ShaderCheck.Symbol.Table

/-!
Scopes: the values that names stand for, from the innermost construct outward.
-/

namespace ShaderCheck

inductive Constness where
  | variable
  | constant
  deriving DecidableEq, Inhabited

/-- Something made of two values is constant only if both are. -/
def Constness.meet : Constness → Constness → Constness
  | .constant, .constant => .constant
  | _, _ => .variable

structure Binding where
  name : String
  ty : Ty
  constness : Constness
  space : AddressSpace
  value : Option Constant
  deriving DecidableEq

/-- The constructs that open a scope. Scopes of kind `inherit` only hold names. -/
inductive ScopeKind where
  | global
  | function
  | loop
  | switch
  | inherit
  deriving DecidableEq, Inhabited

inductive ScopeOwner where
  | document (node : NodeRef)
  | function (node : NodeRef) (declaration : Function)
  | construct (node : NodeRef)
  deriving DecidableEq

def ScopeOwner.nodeRef : ScopeOwner → NodeRef
  | .document node => node
  | .function node _ => node
  | .construct node => node

structure Scope where
  kind : ScopeKind
  owner : ScopeOwner
  bindings : List Binding := []
  deriving DecidableEq

def Scope.find? (scope : Scope) (name : String) : Option Binding :=
  scope.bindings.find? (·.name = name)

/-- Everything that the meaning of a node depends on: the document it is in, the scopes that are open, the innermost
first, and the symbols of the document. -/
structure Env where
  document : Option NodeRef := none
  scopes : List Scope := []
  symbols : Symbols := {}
  deriving DecidableEq, Inhabited

namespace Env

/-- The value of a name, looked for from the innermost scope outward. -/
def lookup? (env : Env) (name : String) : Option Binding := env.scopes.findSome? (·.find? name)

def local? (env : Env) (name : String) : Option Binding := env.scopes.head?.bind (·.find? name)

def owner? (env : Env) (kind : ScopeKind) : Option ScopeOwner :=
  (env.scopes.find? (·.kind = kind)).map (·.owner)

def isInside (env : Env) (kind : ScopeKind) : Bool := (env.owner? kind).isSome

/-- Sets the document, which opens the scope of its globals. It is set only once. -/
def setDocument (env : Env) (node : NodeRef) : Except Fault Env :=
  if env.document.isSome then .error .documentAlreadySet
  else .ok { env with
    document := some node, scopes := ⟨.global, .document node, []⟩ :: env.scopes }

def openScope (env : Env) (kind : ScopeKind) (owner : ScopeOwner) : Except Fault Env :=
  if env.document.isNone then .error .documentNotSet
  else .ok { env with scopes := ⟨kind, owner, []⟩ :: env.scopes }

def closeScope (env : Env) : Env := { env with scopes := env.scopes.tail }

/-- Adds a value to the innermost scope, where its name must be new. -/
def declare (env : Env) (binding : Binding) : Except Fault Env :=
  match env.scopes with
  | [] => .error .documentNotSet
  | scope :: outer =>
    if (scope.find? binding.name).isSome then .error (.duplicateInScope binding.name)
    else .ok { env with scopes := { scope with bindings := binding :: scope.bindings } :: outer }

end Env

end ShaderCheck
