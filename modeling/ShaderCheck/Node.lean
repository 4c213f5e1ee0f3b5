import ShaderCheck.Source.Span

/-!
The nodes of a document, as incidents and answers refer to them: by what they are and where they stand.
-/

namespace ShaderCheck

/-- What a node is. Hosts that build a scope of their own may name its node themselves. -/
inductive NodeKind where
  | document
  | functionDeclaration
  | functionHeader
  | enumDeclaration
  | structDeclaration
  | aliasDeclaration
  | globalVariable
  | typeDeclaration
  | block
  | branch
  | whileLoop
  | doWhile
  | forLoop
  | switch
  | assignment
  | step
  | localVariable
  | returning
  | breaking
  | continuing
  | discarding
  | callStatement
  | arithmetic
  | bitwise
  | comparison
  | logical
  | unary
  | addressOf
  | dereference
  | parenthesized
  | reference
  | literal
  | call
  | index
  | member
  | conversion
  | named (name : String)
  deriving DecidableEq, Inhabited

def NodeKind.name : NodeKind → String
  | .document => "document"
  | .functionDeclaration => "function declaration"
  | .functionHeader => "function header"
  | .enumDeclaration => "enum declaration"
  | .structDeclaration => "struct declaration"
  | .aliasDeclaration => "alias declaration"
  | .globalVariable => "global variable declaration"
  | .typeDeclaration => "type declaration"
  | .block => "block statement"
  | .branch => "if statement"
  | .whileLoop => "while statement"
  | .doWhile => "do while statement"
  | .forLoop => "for statement"
  | .switch => "switch statement"
  | .assignment => "assignment statement"
  | .step => "increment decrement statement"
  | .localVariable => "variable declaration statement"
  | .returning => "return statement"
  | .breaking => "break statement"
  | .continuing => "continue statement"
  | .discarding => "discard statement"
  | .callStatement => "function call statement"
  | .arithmetic => "arithmetic expression"
  | .bitwise => "bit operation expression"
  | .comparison => "comparison expression"
  | .logical => "logical expression"
  | .unary => "unary expression"
  | .addressOf => "address of expression"
  | .dereference => "pointer expression"
  | .parenthesized => "parenthesized expression"
  | .reference => "variable name expression"
  | .literal => "literal value expression"
  | .call => "function call expression"
  | .index => "indexed value expression"
  | .member => "value decomposition expression"
  | .conversion => "conversion expression"
  | .named name => name

structure NodeRef where
  kind : NodeKind
  range : Span
  deriving DecidableEq, Inhabited

end ShaderCheck
