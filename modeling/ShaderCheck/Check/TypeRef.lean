import ShaderCheck.Scope
import ShaderCheck.Source.Expr

/-!
The types that written types stand for.
-/

namespace ShaderCheck

inductive TypeFormer where
  | vector (dimension : Nat)
  | matrix (rows columns : Nat)
  | pointer
  deriving DecidableEq

/-- What the names of the language stand for: a whole type, or one that takes an argument. -/
inductive TypeHead where
  | plain (ty : Ty)
  | former (former : TypeFormer)
  deriving DecidableEq

namespace TypeHead

def size? : Char → Option Nat
  | '2' => some 2
  | '3' => some 3
  | '4' => some 4
  | _ => none

/-- A name such as `mat2x4`, which gives the columns before the rows. -/
def matrix? : List Char → Option TypeFormer
  | ['m', 'a', 't', c, 'x', r] => do
    let columns ← size? c
    let rows ← size? r
    some (.matrix rows columns)
  | _ => none

def ofName? (name : String) : Option TypeHead :=
  match name with
  | "bool" => some (.plain .bool)
  | "i32" => some (.plain .i32)
  | "u32" => some (.plain .u32)
  | "f32" => some (.plain .f32)
  | "f16" => some (.plain .f16)
  | "string" => some (.plain .string)
  | "void" => some (.plain .void)
  | "vec2" => some (.former (.vector 2))
  | "vec3" => some (.former (.vector 3))
  | "vec4" => some (.former (.vector 4))
  | "ptr" => some (.former .pointer)
  | name => (matrix? name.toList).map .former

end TypeHead

namespace Ty

def isVectorElement : Ty → Bool
  | .bool | .numeric _ => true
  | _ => false

def isMatrixElement (ty : Ty) : Bool := ty.numericKind?.any NumericKind.isFloat

end Ty

namespace TypeFormer

/-- The type that is made of an argument. One that is invalid was reported already. -/
def apply (node : NodeRef) : TypeFormer → Ty → Noted Ty
  | _, .invalid => pure .invalid
  | .vector dimension, element =>
    if element.isVectorElement then pure (.vector dimension element)
    else do
      Noted.report node (.vectorElement element)
      return .invalid
  | .matrix rows columns, element =>
    if element.isMatrixElement then pure (.matrix rows columns element)
    else do
      Noted.report node (.matrixElement element)
      return .invalid
  | .pointer, referent => pure (.pointer referent .function)

end TypeFormer

namespace TypeRef

def node (ref : TypeRef) : NodeRef := ⟨.typeDeclaration, ref.range⟩

/-- The type that a name stands for by itself, and notes the use of one that a document declares. -/
def resolveName (symbols : Symbols) (node : NodeRef) (name : String) (bare : Bool) : Noted Ty :=
  match symbols.type? name with
  | none => do
    Noted.report node (.unknownType name)
    return .invalid
  | some ty =>
    if bare then do
      Noted.use name
      return ty
    else do
      Noted.report node (.unexpectedArguments name)
      return .invalid

/-- The type that a written type stands for. One that stands for none is reported and gives the invalid
type. -/
def resolve (symbols : Symbols) : TypeRef → Noted Ty
  | .mk range name arguments =>
    let node : NodeRef := ⟨.typeDeclaration, range⟩
    match TypeHead.ofName? name with
    | none => resolveName symbols node name arguments.isEmpty
    | some (.plain ty) =>
      if arguments.isEmpty then pure ty
      else do
        Noted.report node (.unexpectedArguments name)
        return .invalid
    | some (.former former) =>
      match arguments with
      | [argument] => do
        let argument ← resolve symbols argument
        former.apply node argument
      | _ => do
        Noted.report node (.notOneArgument name)
        return .invalid
termination_by structural ref => ref

def resolveAll (symbols : Symbols) : List TypeRef → Noted (List Ty)
  | [] => pure []
  | ref :: rest => do
    let ty ← ref.resolve symbols
    let types ← resolveAll symbols rest
    return ty :: types

/-- The type of a parameter or result, where the bare name of a generic stands for that generic. -/
def resolveInHeader (symbols : Symbols) (generics : List Generic) (ref : TypeRef) : Noted HeaderType :=
  if ref.arguments.isEmpty && generics.any (·.name = ref.name) then pure (.generic ref.name)
  else do
    let ty ← ref.resolve symbols
    return .concrete ty

end TypeRef

end ShaderCheck
