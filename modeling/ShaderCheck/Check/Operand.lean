import ShaderCheck.Operator
import ShaderCheck.Noted
import ShaderCheck.Ty.Cast

/-!
The types of arithmetic and bit operations.

Operands that do not go together are reported. Where the shape of the result is still clear it is kept, so that what
follows can be checked; otherwise the result is invalid. An invalid operand makes the result invalid and is not
reported again.
-/

namespace ShaderCheck

/-- The type of a combination, and what is wrong with its operands. -/
structure Verdict where
  ty : Ty
  problems : List Cause := []
  deriving DecidableEq

namespace Verdict

def expecting (condition : Bool) (problem : Cause) (ty : Ty) : Verdict :=
  if condition then ⟨ty, []⟩ else ⟨ty, [problem]⟩

def report (verdict : Verdict) (node : NodeRef) : Noted Ty :=
  ⟨verdict.ty, { incidents := verdict.problems.map (⟨·, some node⟩) }⟩

end Verdict

/-- A type as arithmetic sees it. -/
inductive Shape where
  | scalar
  | vector (dimension : Nat) (element : Ty)
  | matrix (rows columns : Nat) (element : Ty)
  | other
  deriving DecidableEq

/-- The shape of a type. A vector of anything but numbers is none. -/
def Ty.shape : Ty → Shape
  | .numeric _ => .scalar
  | .vector dimension (.numeric kind) => .vector dimension (.numeric kind)
  | .matrix rows columns element => .matrix rows columns element
  | _ => .other

namespace ArithmeticOp

/-- The product of a scalar and a matrix, which is the only way to combine the two. -/
def scaleType (op : ArithmeticOp) (scalar element matrix : Ty) (mismatch : Cause) : Verdict :=
  .expecting (op = .multiply && scalar.castsTo element) mismatch matrix

def applyType (op : ArithmeticOp) (length dimension : Nat) (entry element result : Ty)
    (mismatch : Cause) : Verdict :=
  if op = .multiply ∧ length = dimension then .expecting (entry.castsTo element) mismatch result
  else ⟨.invalid, [mismatch]⟩

def matrixType? (op : ArithmeticOp) (r₁ c₁ r₂ c₂ : Nat) (element : Ty) : Option Ty :=
  match op with
  | .plus | .minus => if r₁ = r₂ ∧ c₁ = c₂ then some (.matrix r₁ c₁ element) else none
  | .multiply => if c₁ = r₂ then some (.matrix r₁ c₂ element) else none
  | .divide | .modulo => none

def resultType (op : ArithmeticOp) (left right : Ty) : Verdict :=
  let mismatch := Cause.mismatchedOperands op.token left right
  if left.isInvalid || right.isInvalid then ⟨.invalid, []⟩
  else
    match left.shape, right.shape with
    | .scalar, .scalar => .expecting (left.mutuallyCasts right) mismatch (left.common right)
    | .scalar, .vector _ element => .expecting (left.mutuallyCasts element) mismatch right
    | .vector _ element, .scalar => .expecting (right.mutuallyCasts element) mismatch left
    | .scalar, .matrix _ _ element => op.scaleType left element right mismatch
    | .matrix _ _ element, .scalar => op.scaleType right element left mismatch
    | .vector m a, .vector n b =>
      if m = n then .expecting (a.mutuallyCasts b) mismatch (left.common right)
      else ⟨.invalid, [mismatch]⟩
    | .matrix rows columns element, .vector dimension entry =>
      op.applyType columns dimension entry element (.vector rows element) mismatch
    | .vector dimension entry, .matrix rows columns element =>
      op.applyType rows dimension entry element (.vector columns element) mismatch
    | .matrix r₁ c₁ a, .matrix r₂ c₂ b =>
      match op.matrixType? r₁ c₁ r₂ c₂ a with
      | some ty => .expecting (a.mutuallyCasts b) mismatch ty
      | none => ⟨.invalid, [mismatch]⟩
    | _, _ => ⟨.invalid, [.nonNumericOperands op.token left right]⟩

end ArithmeticOp

/-- The number of components of a vector. Everything else has one. -/
def Ty.dimension : Ty → Nat
  | .vector dimension _ => dimension
  | _ => 1

namespace BitwiseOp

def shiftProblems (op : BitwiseOp) (stored : Bool) (amount : Ty) : List Cause :=
  (if stored then [] else [.shiftOfValue op.token])
    ++ (if amount.elementType.castsTo .u32 then [] else [.signedShiftAmount amount])

/-- The type of a bit operation. A shift keeps the type of what is shifted, which has to be stored somewhere. -/
def resultType (op : BitwiseOp) (left : Ty) (stored : Bool) (right : Ty) : Verdict :=
  if left.isInvalid || right.isInvalid then ⟨.invalid, []⟩
  else
    let strange := [left, right].filter fun ty => !ty.elementType.isIntegral
    if !strange.isEmpty then ⟨.invalid, strange.map (.nonIntegerOperand op.token)⟩
    else if left.dimension ≠ right.dimension then
      ⟨.invalid, [.dimensionMismatch op.token left right]⟩
    else if op.isShift then ⟨left, op.shiftProblems stored right⟩
    else
      .expecting (left.elementType.mutuallyCasts right.elementType)
        (.mismatchedOperands op.token left right) (left.common right)

end BitwiseOp

namespace ComparisonOp

/-- Whether values of a type can be compared: numbers in any way, truth values and enums only for being equal. -/
def compares (op : ComparisonOp) : Ty → Bool
  | .numeric _ => true
  | .bool | .enumeration .. => !op.isOrdering
  | _ => false

def problems (op : ComparisonOp) (left right : Ty) : List Cause :=
  if left.isInvalid || right.isInvalid then []
  else if !left.mutuallyCasts right then [.incomparable left right]
  else if op.compares left.elementType then []
  else if op.isOrdering then [.unorderedOperands op.token left]
  else [.uncomparedType left]

/-- The type of a comparison. Vectors are compared component by component. -/
def resultType (op : ComparisonOp) (left right : Ty) : Verdict where
  ty :=
    match left with
    | .vector dimension _ => .vector dimension .bool
    | _ => .bool
  problems := op.problems left right

end ComparisonOp

namespace LogicalOp

def resultType (token : String) (left right : Ty) : Verdict where
  ty := .bool
  problems :=
    ([left, right].filter fun ty => !ty.isInvalid && !ty.castsTo .bool).map (.nonBooleanOperand token)

end LogicalOp

namespace UnaryOp

def accepts (op : UnaryOp) (ty : Ty) : Bool :=
  ty.isInvalid ||
    match op with
    | .negate => ty.elementType.numericKind?.isSome
    | .not => ty.elementType.castsTo .bool
    | .bitwiseNot => ty.elementType.isIntegral

end UnaryOp

end ShaderCheck
