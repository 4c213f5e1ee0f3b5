import ShaderCheck.Source.Expr

/-!
Statements as a document writes them.
-/

namespace ShaderCheck

structure VariableDecl where
  range : Span
  keyword : String
  name : String
  type : Option TypeRef
  initializer : Option Expr
  deriving Inhabited

mutual

inductive Stmt where
  | block (body : Block)
  | branch (branch : Branch)
  | whileLoop (range : Span) (condition : Expr) (body : Block)
  | doWhile (range : Span) (condition : Expr) (body : Block)
  | forLoop (range : Span) (init : Option VariableDecl) (condition : Option Expr)
      (update : Option Stmt) (body : Block)
  | switch (range : Span) (selector : Expr) (cases : List Case) (fallback : Option Block)
  | assignment (range : Span) (operator : String) (target value : Expr)
  | step (range : Span) (operator : String) (target : Expr)
  | variable (declaration : VariableDecl)
  | returning (range : Span) (value : Option Expr)
  | breaking (range : Span)
  | continuing (range : Span)
  | discarding (range : Span)
  | call (range callRange : Span) (callee : String) (generics : List TypeRef)
      (arguments : List Expr)

inductive Block where
  | mk (range : Span) (statements : List Stmt)

inductive Branch where
  | mk (range : Span) (condition : Expr) (body : Block) (otherwise : Otherwise)

/-- What follows the block of a branch: nothing, a block, or a further branch. -/
inductive Otherwise where
  | nothing
  | block (body : Block)
  | branch (branch : Branch)

inductive Case where
  | mk (range : Span) (values : List Expr) (body : Block)

end

instance : Inhabited Block := ⟨.mk default []⟩

namespace Block

def range : Block → Span
  | .mk range _ => range

def statements : Block → List Stmt
  | .mk _ statements => statements

end Block

namespace Branch

def range : Branch → Span
  | .mk range .. => range

end Branch

def Stmt.range : Stmt → Span
  | .block body => body.range
  | .branch chosen => chosen.range
  | .variable declaration => declaration.range
  | .whileLoop range .. | .doWhile range .. | .forLoop range .. | .switch range .. | .assignment range ..
  | .step range .. | .returning range _ | .breaking range | .continuing range | .discarding range
  | .call range .. => range

end ShaderCheck
