import ShaderCheck.Symbol.Function
import ShaderCheck.Ty.Cast

/-!
The choice of a function's header for a call. The first header that accepts all arguments is taken.

A generic that the call does not write out is bound to the widest type among the arguments that are passed
for it; each of them has to satisfy its restrictions.
-/

namespace ShaderCheck.Overload

structure Argument where
  ty : Ty
  /-- The space of the storage location that is passed. -/
  space : AddressSpace
  deriving DecidableEq, Inhabited

inductive Returned where
  | resolved (ty : Ty)
  /-- The type of the call is a generic that nothing binds. -/
  | unbound (generic : String)
  deriving DecidableEq, Inhabited

structure Instance where
  /-- The generics that are bound, in the order of the header. -/
  generics : List (String × Ty)
  parameters : List Ty
  returns : Returned
  deriving DecidableEq, Inhabited

structure Resolution extends Instance where
  header : Nat
  deriving DecidableEq, Inhabited

/-- What the call writes out for a generic. Of two generics with one name the later counts. -/
def written? (header : Header) (explicit : List Ty) (generic : String) : Option Ty :=
  ((header.generics.map (·.name)).zip explicit).reverse.lookup generic

/-- Whether a parameter takes an argument, as far as it can be said of this argument alone. -/
def accepts (header : Header) (explicit : List Ty) (parameter : HeaderType) (argument : Ty) : Bool :=
  match parameter with
  | .concrete ty => argument.castsTo ty
  | .generic name =>
    match written? header explicit name with
    | some ty => argument.castsTo ty
    | none => (header.generic? name).any (·.allows argument)

def passedFor (header : Header) (arguments : List Argument) (generic : String) : List Ty :=
  (header.parameters.zip arguments).filterMap fun (parameter, argument) =>
    if parameter.type = .generic generic then some argument.ty else none

/-- The widest of some types, if each casts into or from the widest before it. -/
def widest? : List Ty → Option Ty
  | [] => none
  | first :: rest =>
    rest.foldlM (fun wide ty => if wide.mutuallyCasts ty then some (wide.common ty) else none) first

def bound? (header : Header) (arguments : List Argument) (explicit : List Ty) (generic : String) :
    Option Ty :=
  match written? header explicit generic with
  | some ty => some ty
  | none => widest? (passedFor header arguments generic)

def instantiate? (header : Header) (arguments : List Argument) (explicit : List Ty) :
    HeaderType → Option Ty
  | .concrete ty => some ty
  | .generic name => bound? header arguments explicit name

/-- A pointer parameter points into the space that its argument points into. -/
def inSpaceOf (ty : Ty) (argument : Argument) : Ty :=
  match ty, argument.ty with
  | .pointer referent _, .pointer _ space => .pointer referent space
  | .pointer referent _, _ => .pointer referent argument.space
  | ty, _ => ty

/-- Fills in a header for a call, if it accepts the arguments. Generics that are written out have to be
written out for all. -/
def instance? (header : Header) (arguments : List Argument) (explicit : List Ty) : Option Instance :=
  if header.parameters.length = arguments.length
      ∧ (explicit = [] ∨ header.generics.length = explicit.length)
      ∧ (header.parameters.zip arguments).all
        (fun (parameter, argument) => accepts header explicit parameter.type argument.ty) then do
    let parameters ← header.parameters.mapM
      fun parameter => instantiate? header arguments explicit parameter.type
    some
      { generics := header.generics.filterMap fun generic =>
          (bound? header arguments explicit generic.name).map (generic.name, ·)
        parameters := List.zipWith inSpaceOf parameters arguments
        returns :=
          match header.returns with
          | .concrete ty => .resolved ty
          | .generic name =>
            match bound? header arguments explicit name with
            | some ty => .resolved ty
            | none => .unbound name }
  else none

def resolveFrom (arguments : List Argument) (explicit : List Ty) : Nat → List Header → Option Resolution
  | _, [] => none
  | position, header :: rest =>
    match instance? header arguments explicit with
    | some found => some { found with header := position }
    | none => resolveFrom arguments explicit (position + 1) rest

def resolve? (function : Function) (arguments : List Argument) (explicit : List Ty) : Option Resolution :=
  resolveFrom arguments explicit 0 function.headers

end ShaderCheck.Overload
