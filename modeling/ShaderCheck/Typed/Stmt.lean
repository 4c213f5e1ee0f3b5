import ShaderCheck.Source.Stmt
import ShaderCheck.Typed.Expr

/-!
Statements with what is known of them.
-/

namespace ShaderCheck

structure TypedVariable where
  range : Span
  binding : Binding
  initializer : Option TypedExpr

/-- How the statements directly in a block leave it. Blocks and branches inside it do not count. -/
structure BlockFacts where
  /-- The type of the first `return`, void without one. -/
  returns : Ty
  breaking : Bool
  continuing : Bool
  deriving DecidableEq

mutual

inductive TypedStmt where
  | block (body : TypedBlock)
  | branch (branch : TypedBranch)
  | whileLoop (range : Span) (condition : TypedExpr) (body : TypedBlock)
  | doWhile (range : Span) (condition : TypedExpr) (body : TypedBlock)
  | forLoop (range : Span) (init : Option TypedVariable) (condition : Option TypedExpr)
      (update : Option TypedStmt) (body : TypedBlock)
  | switch (range : Span) (values : List Int64) (selector : TypedExpr) (cases : List TypedCase)
      (fallback : Option TypedBlock)
  | assignment (range : Span) (operator : AssignmentOp) (target value : TypedExpr)
  | step (range : Span) (operator : StepOp) (target : TypedExpr)
  | variable (declaration : TypedVariable)
  | returning (range : Span) (ty : Ty) (value : Option TypedExpr)
  | breaking (range : Span)
  | continuing (range : Span)
  | discarding (range : Span)
  | call (range : Span) (call : TypedExpr)

inductive TypedBlock where
  | mk (range : Span) (facts : BlockFacts) (statements : List TypedStmt)

inductive TypedBranch where
  | mk (range : Span) (condition : TypedExpr) (body : TypedBlock) (otherwise : TypedOtherwise)

inductive TypedOtherwise where
  | nothing
  | block (body : TypedBlock)
  | branch (branch : TypedBranch)

inductive TypedCase where
  | mk (range : Span) (values : List TypedExpr) (body : TypedBlock)

end

namespace TypedBlock

def range : TypedBlock → Span
  | .mk range .. => range

def facts : TypedBlock → BlockFacts
  | .mk _ facts _ => facts

def statements : TypedBlock → List TypedStmt
  | .mk _ _ statements => statements

end TypedBlock

namespace BlockFacts

def returnTypes (statements : List TypedStmt) : List Ty :=
  statements.filterMap fun
    | .returning _ ty _ => some ty
    | _ => none

def ofStatements (statements : List TypedStmt) : BlockFacts where
  returns := (returnTypes statements).headD .void
  breaking := statements.any fun
    | .breaking _ => true
    | _ => false
  continuing := statements.any fun
    | .continuing _ => true
    | _ => false

end BlockFacts

def Stmt.node : Stmt → NodeRef
  | .block body => ⟨.block, body.range⟩
  | .branch chosen => ⟨.branch, chosen.range⟩
  | .whileLoop range .. => ⟨.whileLoop, range⟩
  | .doWhile range .. => ⟨.doWhile, range⟩
  | .forLoop range .. => ⟨.forLoop, range⟩
  | .switch range .. => ⟨.switch, range⟩
  | .assignment range .. => ⟨.assignment, range⟩
  | .step range .. => ⟨.step, range⟩
  | .variable declaration => ⟨.localVariable, declaration.range⟩
  | .returning range _ => ⟨.returning, range⟩
  | .breaking range => ⟨.breaking, range⟩
  | .continuing range => ⟨.continuing, range⟩
  | .discarding range => ⟨.discarding, range⟩
  | .call range .. => ⟨.callStatement, range⟩

end ShaderCheck
