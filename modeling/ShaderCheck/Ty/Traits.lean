import ShaderCheck.Ty.Basic

/-!
What values of a type may be used for.
-/

namespace ShaderCheck

structure Traits where
  storable : Bool := false
  hostShareable : Bool := false
  composite : Bool := false
  constructible : Bool := false
  fixedFootprint : Bool := false
  indexable : Bool := false
  concrete : Bool := false
  scalar : Bool := false
  plain : Bool := false
  deriving DecidableEq, Inhabited

namespace Traits

/-- A vector or matrix is as storable as what it holds. -/
def ofElement (element : Traits) : Traits where
  storable := element.storable
  hostShareable := element.hostShareable
  composite := true
  constructible := element.constructible
  fixedFootprint := true
  indexable := true
  concrete := element.concrete
  plain := true

def ofMembers (members : List Traits) : Traits where
  storable := members.all (·.storable)
  hostShareable := members.all (·.hostShareable)
  composite := true
  constructible := members.all (·.constructible)
  fixedFootprint := members.all (·.fixedFootprint)
  concrete := true
  plain := members.all (·.plain)

end Traits

namespace Ty

mutual

def traits : Ty → Traits
  | .invalid => {}
  | .void | .string => { concrete := true }
  | .bool =>
    { storable := true, constructible := true, fixedFootprint := true, concrete := true,
      scalar := true, plain := true }
  | .numeric kind =>
    { storable := true, hostShareable := kind.isConcrete, constructible := true,
      fixedFootprint := true, concrete := kind.isConcrete, scalar := true, plain := true }
  | .vector _ element => .ofElement (traits element)
  | .matrix _ _ element => .ofElement (traits element)
  | .pointer _ _ => { fixedFootprint := true, concrete := true }
  | .enumeration _ underlying =>
    { storable := (traits underlying).storable,
      fixedFootprint := (traits underlying).fixedFootprint,
      concrete := true, scalar := (traits underlying).scalar, plain := true }
  | .struct _ members => .ofMembers (memberTraits members)
termination_by structural ty => ty

def memberTraits : List (String × Ty) → List Traits
  | [] => []
  | (_, ty) :: rest => traits ty :: memberTraits rest
termination_by structural members => members

end

end Ty

end ShaderCheck
