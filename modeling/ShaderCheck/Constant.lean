import ShaderCheck.Number.Shortest
import ShaderCheck.Ty.Basic

/-!
Values that are known before a program runs.
-/

namespace ShaderCheck

/-- A known value. Whole numbers are kept in 64 bits whatever their type. -/
inductive Constant where
  | integer (value : Int64)
  | float (value : Double)
  | boolean (value : Bool)
  | string (value : String)
  deriving DecidableEq

namespace Constant

def integer? : Constant → Option Int64
  | .integer value => some value
  | _ => none

def isNumber : Constant → Bool
  | .integer _ | .float _ => true
  | .boolean _ | .string _ => false

/-- The negated number. The least whole number has no counterpart. -/
def negate? : Constant → Option Constant
  | .integer value => if value = Int64.minValue then none else some (.integer (-value))
  | .float value => some (.float value.negate)
  | .boolean _ | .string _ => none

/-- All bits of a word inverted, in the width of the kind and with its sign. -/
def invertBits? (kind : NumericKind) (value : Int64) : Option Int64 :=
  match kind with
  | .i32 => some (~~~value.toInt32).toInt64
  | .u32 => some (~~~value.toUInt64.toUInt32).toUInt64.toInt64
  | .abstractInt => some (~~~value)
  | .abstractFloat | .f16 | .f32 => none

def bitNot? (kind : NumericKind) : Constant → Option Constant
  | .integer value => (invertBits? kind value).map .integer
  | .float _ | .boolean _ | .string _ => none

/-- A constant as it is shown. A string stands between quotes, with nothing escaped. -/
def text : Constant → String
  | .integer value => toString value.toInt
  | .float value => value.text
  | .boolean true => "true"
  | .boolean false => "false"
  | .string value => "\"" ++ value ++ "\""

end Constant

end ShaderCheck
