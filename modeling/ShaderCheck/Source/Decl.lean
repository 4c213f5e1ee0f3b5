import ShaderCheck.Source.Stmt

/-!
Declarations and whole documents.
-/

namespace ShaderCheck

/-- A generic parameter of a header, with the tags it is restricted to, if any are written. -/
structure GenericDecl where
  range : Span
  name : String
  restrictions : Option (List String)
  deriving Inhabited

structure ParameterDecl where
  range : Span
  name : String
  type : TypeRef
  deriving Inhabited

structure HeaderDecl where
  range : Span
  generics : List GenericDecl
  parameters : List ParameterDecl
  returnType : TypeRef
  deriving Inhabited

/-- A function: its headers and one body for all of them. -/
structure FunctionDecl where
  range : Span
  name : String
  headers : List HeaderDecl
  body : Block
  deriving Inhabited

structure LiteralRef where
  range : Span
  text : String
  deriving Inhabited

structure EnumMemberDecl where
  range : Span
  name : String
  value : Option LiteralRef
  deriving Inhabited

structure EnumDecl where
  range : Span
  name : String
  members : List EnumMemberDecl
  deriving Inhabited

structure PropertyDecl where
  range : Span
  name : String
  type : TypeRef
  deriving Inhabited

structure StructDecl where
  range : Span
  name : String
  properties : List PropertyDecl
  deriving Inhabited

structure AliasDecl where
  range : Span
  name : String
  type : TypeRef
  deriving Inhabited

inductive Decl where
  | function (declaration : FunctionDecl)
  | enumeration (declaration : EnumDecl)
  | struct (declaration : StructDecl)
  | alias (declaration : AliasDecl)
  | variable (declaration : VariableDecl)
  deriving Inhabited

def Decl.range : Decl → Span
  | .function declaration => declaration.range
  | .enumeration declaration => declaration.range
  | .struct declaration => declaration.range
  | .alias declaration => declaration.range
  | .variable declaration => declaration.range

structure Document where
  range : Span
  declarations : List Decl
  deriving Inhabited

end ShaderCheck
