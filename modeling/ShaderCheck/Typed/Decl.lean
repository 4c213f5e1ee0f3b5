import ShaderCheck.Source.Decl
import ShaderCheck.Typed.Stmt

/-!
Declarations with what is known of them.
-/

namespace ShaderCheck

inductive TypedDecl where
  | function (range : Span) (declaration : Function) (body : TypedBlock)
  /-- A function whose name stands for another one. Its body is not checked. -/
  | duplicate (range bodyRange : Span)
  | enumeration (range : Span) (declaration : Enumeration)
  | struct (range : Span) (layout : Layout)
  | alias (range : Span) (ty : Ty)
  | variable (declaration : TypedVariable)

structure Counts where
  functions : Nat := 0
  types : Nat := 0
  globals : Nat := 0
  deriving DecidableEq, Inhabited

structure TypedDocument where
  range : Span
  counts : Counts
  declarations : List TypedDecl

def Decl.node : Decl → NodeRef
  | .function declaration => ⟨.functionDeclaration, declaration.range⟩
  | .enumeration declaration => ⟨.enumDeclaration, declaration.range⟩
  | .struct declaration => ⟨.structDeclaration, declaration.range⟩
  | .alias declaration => ⟨.aliasDeclaration, declaration.range⟩
  | .variable declaration => ⟨.globalVariable, declaration.range⟩

end ShaderCheck
