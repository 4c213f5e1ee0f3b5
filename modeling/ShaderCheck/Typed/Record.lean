import ShaderCheck.Typed.Decl

/-!
Checked trees as lists of nodes, each before what it contains.
-/

namespace ShaderCheck

inductive Detail where
  | expression (facts : Facts)
  | binary (facts : Facts) (operator : BinaryOp)
  | unary (facts : Facts) (operator : UnaryOp)
  | call (facts : Facts) (target : CallTarget)
  | block (facts : BlockFacts)
  | switch (values : List Int64)
  | assignment (operator : AssignmentOp)
  | step (operator : StepOp)
  | variable (binding : Binding)
  | function (declaration : Option Function) (returns : Option Ty)
  | enumeration (declaration : Enumeration)
  /-- A node of which only a type is known. -/
  | typed (ty : Ty)
  | document (counts : Counts)
  /-- A node of which nothing is known. -/
  | plain
  /-- A node that was not checked. -/
  | unchecked
  deriving DecidableEq

structure Record where
  node : NodeRef
  detail : Detail
  deriving DecidableEq

namespace Record

mutual

def ofExpr : TypedExpr → List Record
  | e@(.binary _ facts operator left right) =>
    ⟨e.node, .binary facts operator⟩ :: (ofExpr left ++ ofExpr right)
  | e@(.unary _ facts operator operand) => ⟨e.node, .unary facts operator⟩ :: ofExpr operand
  | e@(.addressOf _ facts operand) => ⟨e.node, .expression facts⟩ :: ofExpr operand
  | e@(.dereference _ facts operand) => ⟨e.node, .expression facts⟩ :: ofExpr operand
  | e@(.parenthesized _ facts inner) => ⟨e.node, .expression facts⟩ :: ofExpr inner
  | e@(.reference _ facts _) => [⟨e.node, .expression facts⟩]
  | e@(.literal _ facts _) => [⟨e.node, .expression facts⟩]
  | e@(.call _ facts _ target arguments) => ⟨e.node, .call facts target⟩ :: ofExprs arguments
  | e@(.index _ facts value index) => ⟨e.node, .expression facts⟩ :: (ofExpr value ++ ofExpr index)
  | e@(.member _ facts value _) => ⟨e.node, .expression facts⟩ :: ofExpr value
  | e@(.conversion _ facts operand) => ⟨e.node, .expression facts⟩ :: ofExpr operand
termination_by structural e => e

def ofExprs : List TypedExpr → List Record
  | [] => []
  | e :: rest => ofExpr e ++ ofExprs rest
termination_by structural es => es

end

def ofOptional : Option TypedExpr → List Record
  | none => []
  | some e => ofExpr e

def ofVariable (kind : NodeKind) (declaration : TypedVariable) : List Record :=
  ⟨⟨kind, declaration.range⟩, .variable declaration.binding⟩ :: ofOptional declaration.initializer

mutual

def ofStmt : TypedStmt → List Record
  | .block body => ofBlock body
  | .branch chosen => ofBranch chosen
  | .whileLoop range condition body =>
    ⟨⟨.whileLoop, range⟩, .plain⟩ :: (ofExpr condition ++ ofBlock body)
  | .doWhile range condition body =>
    ⟨⟨.doWhile, range⟩, .plain⟩ :: (ofBlock body ++ ofExpr condition)
  | .forLoop range init condition update body =>
    ⟨⟨.forLoop, range⟩, .plain⟩ ::
      ((match init with
        | none => []
        | some declaration => ofVariable .localVariable declaration)
        ++ ofOptional condition
        ++ (match update with
          | none => []
          | some update => ofStmt update)
        ++ ofBlock body)
  | .switch range values selector cases fallback =>
    ⟨⟨.switch, range⟩, .switch values⟩ ::
      (ofExpr selector ++ ofCases cases
        ++ (match fallback with
          | none => []
          | some body => ofBlock body))
  | .assignment range operator target value =>
    ⟨⟨.assignment, range⟩, .assignment operator⟩ :: (ofExpr target ++ ofExpr value)
  | .step range operator target => ⟨⟨.step, range⟩, .step operator⟩ :: ofExpr target
  | .variable declaration => ofVariable .localVariable declaration
  | .returning range ty value => ⟨⟨.returning, range⟩, .typed ty⟩ :: ofOptional value
  | .breaking range => [⟨⟨.breaking, range⟩, .plain⟩]
  | .continuing range => [⟨⟨.continuing, range⟩, .plain⟩]
  | .discarding range => [⟨⟨.discarding, range⟩, .plain⟩]
  | .call range called => ⟨⟨.callStatement, range⟩, .typed called.facts.ty⟩ :: ofExpr called
termination_by structural s => s

def ofBlock : TypedBlock → List Record
  | .mk range facts statements => ⟨⟨.block, range⟩, .block facts⟩ :: ofStmts statements
termination_by structural b => b

def ofStmts : List TypedStmt → List Record
  | [] => []
  | s :: rest => ofStmt s ++ ofStmts rest
termination_by structural statements => statements

def ofBranch : TypedBranch → List Record
  | .mk range condition body otherwise =>
    ⟨⟨.branch, range⟩, .plain⟩ :: (ofExpr condition ++ ofBlock body ++ ofOtherwise otherwise)
termination_by structural b => b

def ofOtherwise : TypedOtherwise → List Record
  | .nothing => []
  | .block body => ofBlock body
  | .branch chosen => ofBranch chosen
termination_by structural o => o

def ofCases : List TypedCase → List Record
  | [] => []
  | .mk _ values body :: rest => ofExprs values ++ ofBlock body ++ ofCases rest
termination_by structural cases => cases

end

def ofDecl : TypedDecl → List Record
  | .function range declaration body =>
    ⟨⟨.functionDeclaration, range⟩, .function (some declaration) (some body.facts.returns)⟩ ::
      ofBlock body
  | .duplicate range bodyRange =>
    [⟨⟨.functionDeclaration, range⟩, .function none none⟩, ⟨⟨.block, bodyRange⟩, .unchecked⟩]
  | .enumeration range declaration =>
    [⟨⟨.enumDeclaration, range⟩, .enumeration declaration⟩]
  | .struct range layout => [⟨⟨.structDeclaration, range⟩, .typed layout.ty⟩]
  | .alias range ty => [⟨⟨.aliasDeclaration, range⟩, .typed ty⟩]
  | .variable declaration => ofVariable .globalVariable declaration

def ofDocument (document : TypedDocument) : List Record :=
  ⟨⟨.document, document.range⟩, .document document.counts⟩ :: document.declarations.flatMap ofDecl

end Record

end ShaderCheck
