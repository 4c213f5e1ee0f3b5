import ShaderCheck.Ty.Basic

/-!
Casts between types.

A value is cast implicitly where nothing is lost: an abstract number takes on a format, a half becomes a
float. Everything else has to be written as a conversion. Structs and enums are told apart by name.
-/

namespace ShaderCheck

def NumericKind.castsTo : NumericKind → NumericKind → Bool
  | .abstractInt, _ => true
  | .abstractFloat, .f16 | .abstractFloat, .f32 | .f16, .f32 => true
  | source, target => source == target

namespace Ty

/-- Whether two types are the same to a program. Nothing equals the invalid type, not even itself. -/
def equals : Ty → Ty → Bool
  | .void, .void => true
  | .bool, .bool => true
  | .string, .string => true
  | .numeric a, .numeric b => a == b
  | .vector m a, .vector n b => m == n && a.equals b
  | .matrix r c a, .matrix s d b => r == s && c == d && a.equals b
  | .pointer a s, .pointer b t => s == t && a.equals b
  | .enumeration m _, .enumeration n _ => m == n
  | .struct m _, .struct n _ => m == n
  | _, _ => false

/-- Whether a value of the first type may be used where the second is asked for. Between pointers the
address space is left to the place that takes the pointer. -/
def castsTo : Ty → Ty → Bool
  | .numeric a, .numeric b => a.castsTo b
  | .vector m a, .vector n b => m == n && a.castsTo b
  | .matrix r c a, .matrix s d b => r == s && c == d && a.castsTo b
  | .pointer a _, .pointer b _ => a.equals b
  | source, target => source.equals target

/-- Whether a written conversion from the first type into the second is accepted. An enum converts as
its underlying type does. -/
def convertsTo : Ty → Ty → Bool
  | .numeric _, .numeric _ => true
  | .vector m a, .vector n b => m == n && a.convertsTo b
  | .matrix r c a, .matrix s d b => r == s && c == d && a.convertsTo b
  | .enumeration name underlying, target =>
    (Ty.enumeration name underlying).castsTo target || underlying.convertsTo target
  | source, target => source.castsTo target

def mutuallyCasts (a b : Ty) : Bool := a.castsTo b || b.castsTo a

/-- The wider of two types: the second if only the first casts into the second. -/
def common (a b : Ty) : Ty := if !b.castsTo a && a.castsTo b then b else a

def isIntegral (ty : Ty) : Bool := ty.castsTo .i32 || ty.castsTo .u32

end Ty

end ShaderCheck
