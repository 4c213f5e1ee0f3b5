import ShaderCheck.Source.Span
import ShaderCheck.Ty.Tag

/-!
Functions as their callers see them. A function has one or more headers; a header may leave types open as generic
parameters, which a call fills in.
-/

namespace ShaderCheck

/-- The type of a parameter or result: given, or one of the header's generics. -/
inductive HeaderType where
  | concrete (ty : Ty)
  | generic (name : String)
  deriving DecidableEq, Inhabited

structure Parameter where
  name : String
  type : HeaderType
  deriving DecidableEq, Inhabited

/-- A generic parameter. Without restrictions it stands for any type that is valid. -/
structure Generic where
  name : String
  restrictions : Option (List Tag)
  deriving DecidableEq, Inhabited

def Generic.allows (generic : Generic) (ty : Ty) : Bool :=
  match generic.restrictions with
  | none => !ty.isInvalid
  | some tags => ty.tags.any tags.contains

structure Header where
  generics : List Generic
  parameters : List Parameter
  returns : HeaderType
  deriving DecidableEq, Inhabited

def Header.generic? (header : Header) (name : String) : Option Generic :=
  header.generics.find? (·.name = name)

def Header.parameterType? (header : Header) (position : Nat) : Option HeaderType :=
  header.parameters[position]?.map (·.type)

/-- A function. One that comes with the language is declared nowhere. -/
structure Function where
  name : String
  headers : List Header
  range : Option Span
  deriving DecidableEq, Inhabited

def Function.isBuiltin (function : Function) : Bool := function.range.isNone

end ShaderCheck
