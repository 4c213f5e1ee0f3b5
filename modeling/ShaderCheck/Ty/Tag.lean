import ShaderCheck.Ty.Basic

/-!
Tags of types. A generic parameter may be restricted to types that carry one of a list of tags.
-/

namespace ShaderCheck

inductive Tag where
  | boolean
  | numeric
  | integer
  | unsignedInteger
  | float
  | float16
  | scalar
  | vector
  | matrix
  | pointer
  | enumeration
  | string
  | struct
  deriving DecidableEq, Inhabited

namespace Tag

def all : List Tag :=
  [.boolean, .numeric, .integer, .unsignedInteger, .float, .float16, .scalar, .vector, .matrix,
    .pointer, .enumeration, .string, .struct]

def name : Tag → String
  | .boolean => "Boolean"
  | .numeric => "Numeric"
  | .integer => "Integer"
  | .unsignedInteger => "UnsignedInteger"
  | .float => "Float"
  | .float16 => "Float16"
  | .scalar => "Scalar"
  | .vector => "Vector"
  | .matrix => "Matrix"
  | .pointer => "Pointer"
  | .enumeration => "Enum"
  | .string => "String"
  | .struct => "Struct"

def ofName? (word : String) : Option Tag := all.find? (·.name = word)

end Tag

/-- The tags of a numeric kind beyond being a number. An abstract number may still become any format it
has a tag for. -/
def NumericKind.tags : NumericKind → List Tag
  | .abstractInt => [.integer, .unsignedInteger, .float, .float16]
  | .abstractFloat => [.float, .float16]
  | .i32 => [.integer]
  | .u32 => [.unsignedInteger]
  | .f16 => [.float16]
  | .f32 => [.float]

/-- The tags of a type. A vector also has those of its element, except that it is no scalar. -/
def Ty.tags : Ty → List Tag
  | .invalid | .void => []
  | .bool => [.boolean, .scalar]
  | .numeric kind => .numeric :: .scalar :: kind.tags
  | .vector _ element => .vector :: element.tags.filter (· ≠ .scalar)
  | .matrix .. => [.matrix]
  | .pointer .. => [.pointer]
  | .enumeration .. => [.enumeration]
  | .string => [.string]
  | .struct .. => [.struct]

end ShaderCheck
