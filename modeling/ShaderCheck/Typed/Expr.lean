import ShaderCheck.Operator
import ShaderCheck.Source.Expr
import ShaderCheck.Scope

/-!
Expressions with what is known of them.
-/

namespace ShaderCheck

structure Facts where
  ty : Ty
  constness : Constness
  /-- The value, where it could be worked out. -/
  value : Option Constant := none
  /-- Whether the expression denotes a place that holds its value. -/
  storage : Bool := false
  /-- The space of that place. -/
  space : AddressSpace := .function
  /-- Whether the expression names an enum itself, not a value of it. -/
  enumName : Bool := false
  deriving DecidableEq

namespace Facts

def computed (ty : Ty) (constness : Constness) : Facts := { ty, constness }

def unresolved : Facts := computed .invalid .variable

end Facts

/-- What a call resolved to: nothing, or a header with its generics filled in. -/
structure CallTarget where
  header : Option Nat := none
  generics : List (String × Ty) := []
  parameters : List Ty := []
  deriving DecidableEq

inductive TypedExpr where
  | binary (range : Span) (facts : Facts) (operator : BinaryOp) (left right : TypedExpr)
  | unary (range : Span) (facts : Facts) (operator : UnaryOp) (operand : TypedExpr)
  | addressOf (range : Span) (facts : Facts) (operand : TypedExpr)
  | dereference (range : Span) (facts : Facts) (operand : TypedExpr)
  | parenthesized (range : Span) (facts : Facts) (inner : TypedExpr)
  | reference (range : Span) (facts : Facts) (name : String)
  | literal (range : Span) (facts : Facts) (text : String)
  | call (range : Span) (facts : Facts) (callee : String) (target : CallTarget)
      (arguments : List TypedExpr)
  | index (range : Span) (facts : Facts) (value index : TypedExpr)
  | member (range : Span) (facts : Facts) (value : TypedExpr) (member : String)
  | conversion (range : Span) (facts : Facts) (operand : TypedExpr)

namespace OperatorFamily

def nodeKind : OperatorFamily → NodeKind
  | .arithmetic => .arithmetic
  | .bitwise => .bitwise
  | .comparison => .comparison
  | .logical => .logical

end OperatorFamily

def BinaryOp.family : BinaryOp → OperatorFamily
  | .arithmetic _ => .arithmetic
  | .bitwise _ => .bitwise
  | .comparison _ => .comparison
  | .logical _ => .logical

namespace TypedExpr

def facts : TypedExpr → Facts
  | .binary _ facts .. | .unary _ facts .. | .addressOf _ facts _ | .dereference _ facts _
  | .parenthesized _ facts _ | .reference _ facts _ | .literal _ facts _ | .call _ facts ..
  | .index _ facts .. | .member _ facts .. | .conversion _ facts _ => facts

def node : TypedExpr → NodeRef
  | .binary range _ operator .. => ⟨operator.family.nodeKind, range⟩
  | .unary range .. => ⟨.unary, range⟩
  | .addressOf range .. => ⟨.addressOf, range⟩
  | .dereference range .. => ⟨.dereference, range⟩
  | .parenthesized range .. => ⟨.parenthesized, range⟩
  | .reference range .. => ⟨.reference, range⟩
  | .literal range .. => ⟨.literal, range⟩
  | .call range .. => ⟨.call, range⟩
  | .index range .. => ⟨.index, range⟩
  | .member range .. => ⟨.member, range⟩
  | .conversion range .. => ⟨.conversion, range⟩

end TypedExpr

namespace Expr

def node : Expr → NodeRef
  | .binary family range .. => ⟨family.nodeKind, range⟩
  | .unary range .. => ⟨.unary, range⟩
  | .addressOf range _ => ⟨.addressOf, range⟩
  | .dereference range _ => ⟨.dereference, range⟩
  | .parenthesized range _ => ⟨.parenthesized, range⟩
  | .reference range _ => ⟨.reference, range⟩
  | .literal range _ => ⟨.literal, range⟩
  | .call range .. => ⟨.call, range⟩
  | .index range .. => ⟨.index, range⟩
  | .member range .. => ⟨.member, range⟩
  | .conversion range .. => ⟨.conversion, range⟩

end Expr

end ShaderCheck
