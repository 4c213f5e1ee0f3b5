import ShaderCheck.Source.Span

/-!
Types and expressions as a document writes them. Names, operators and literals are kept as text: whether they mean
anything is for the checker to say.
-/

namespace ShaderCheck

/-- A type as it is written: a name with type arguments. -/
inductive TypeRef where
  | mk (range : Span) (name : String) (arguments : List TypeRef)
  deriving Inhabited

namespace TypeRef

def range : TypeRef → Span
  | .mk range _ _ => range

def name : TypeRef → String
  | .mk _ name _ => name

def arguments : TypeRef → List TypeRef
  | .mk _ _ arguments => arguments

end TypeRef

inductive OperatorFamily where
  | arithmetic
  | bitwise
  | comparison
  | logical
  deriving DecidableEq, Inhabited

inductive Expr where
  | binary (family : OperatorFamily) (range : Span) (left : Expr) (operator : String) (right : Expr)
  | unary (range : Span) (operator : String) (operand : Expr)
  | addressOf (range : Span) (operand : Expr)
  | dereference (range : Span) (operand : Expr)
  | parenthesized (range : Span) (inner : Expr)
  | reference (range : Span) (name : String)
  | literal (range : Span) (text : String)
  | call (range : Span) (callee : String) (generics : List TypeRef) (arguments : List Expr)
  | index (range : Span) (value index : Expr)
  | member (range : Span) (value : Expr) (member : String)
  | conversion (range : Span) (target : TypeRef) (operand : Expr)
  deriving Inhabited

def Expr.range : Expr → Span
  | .binary _ range .. | .unary range .. | .addressOf range _ | .dereference range _
  | .parenthesized range _ | .reference range _ | .literal range _ | .call range .. | .index range ..
  | .member range .. | .conversion range .. => range

end ShaderCheck
