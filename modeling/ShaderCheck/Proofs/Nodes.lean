import ShaderCheck.Source.Decl
import ShaderCheck.Typed.Decl

/-!
The nodes of a tree, as lists. A statement is listed before the statements inside it. A block is a statement wherever it
stands, and so are the branch behind an `else` and the variable of a `for`.
-/

namespace ShaderCheck

namespace Stmt

mutual

def nodes : Stmt → List Stmt
  | .block body => nodesOfBlock body
  | .branch chosen => nodesOfBranch chosen
  | .whileLoop range condition body => .whileLoop range condition body :: nodesOfBlock body
  | .doWhile range condition body => .doWhile range condition body :: nodesOfBlock body
  | .forLoop range init condition update body =>
    .forLoop range init condition update body
      :: ((init.map Stmt.variable).toList ++ (nodesOfUpdate update ++ nodesOfBlock body))
  | .switch range selector cases fallback =>
    .switch range selector cases fallback :: (nodesOfCases cases ++ nodesOfFallback fallback)
  | .assignment range operator target value => [.assignment range operator target value]
  | .step range operator target => [.step range operator target]
  | .variable declaration => [.variable declaration]
  | .returning range value => [.returning range value]
  | .breaking range => [.breaking range]
  | .continuing range => [.continuing range]
  | .discarding range => [.discarding range]
  | .call range callRange callee generics arguments => [.call range callRange callee generics arguments]
termination_by structural s => s

def nodesOfBlock : Block → List Stmt
  | .mk range statements => .block (.mk range statements) :: nodesOfStmts statements
termination_by structural b => b

def nodesOfStmts : List Stmt → List Stmt
  | [] => []
  | s :: rest => nodes s ++ nodesOfStmts rest
termination_by structural statements => statements

def nodesOfBranch : Branch → List Stmt
  | .mk range condition body otherwise =>
    .branch (.mk range condition body otherwise) :: (nodesOfBlock body ++ nodesOfOtherwise otherwise)
termination_by structural b => b

def nodesOfOtherwise : Otherwise → List Stmt
  | .nothing => []
  | .block body => nodesOfBlock body
  | .branch chosen => nodesOfBranch chosen
termination_by structural o => o

def nodesOfUpdate : Option Stmt → List Stmt
  | none => []
  | some s => nodes s
termination_by structural update => update

def nodesOfCases : List Case → List Stmt
  | [] => []
  | .mk _ _ body :: rest => nodesOfBlock body ++ nodesOfCases rest
termination_by structural cases => cases

def nodesOfFallback : Option Block → List Stmt
  | none => []
  | some body => nodesOfBlock body
termination_by structural fallback => fallback

end

end Stmt

namespace Decl

def function? : Decl → Option FunctionDecl
  | .function declaration => some declaration
  | _ => none

def global? : Decl → Option VariableDecl
  | .variable declaration => some declaration
  | _ => none

def enumeration? : Decl → Option EnumDecl
  | .enumeration declaration => some declaration
  | _ => none

end Decl

namespace Document

def functions (document : Document) : List FunctionDecl := document.declarations.filterMap Decl.function?

def globals (document : Document) : List VariableDecl := document.declarations.filterMap Decl.global?

def enums (document : Document) : List EnumDecl := document.declarations.filterMap Decl.enumeration?

end Document

namespace TypedExpr

mutual

def nodes : TypedExpr → List TypedExpr
  | .binary range facts operator left right => .binary range facts operator left right :: (nodes left ++ nodes right)
  | .unary range facts operator operand => .unary range facts operator operand :: nodes operand
  | .addressOf range facts operand => .addressOf range facts operand :: nodes operand
  | .dereference range facts operand => .dereference range facts operand :: nodes operand
  | .parenthesized range facts inner => .parenthesized range facts inner :: nodes inner
  | .reference range facts name => [.reference range facts name]
  | .literal range facts text => [.literal range facts text]
  | .call range facts callee target arguments => .call range facts callee target arguments :: nodesOfAll arguments
  | .index range facts value position => .index range facts value position :: (nodes value ++ nodes position)
  | .member range facts value name => .member range facts value name :: nodes value
  | .conversion range facts operand => .conversion range facts operand :: nodes operand
termination_by structural e => e

def nodesOfAll : List TypedExpr → List TypedExpr
  | [] => []
  | e :: rest => nodes e ++ nodesOfAll rest
termination_by structural es => es

end

mutual

/-- The parts of a part of an expression are parts of it. -/
theorem nodes_subset : (e : TypedExpr) → ∀ node ∈ e.nodes, node.nodes ⊆ e.nodes
  | .binary range facts operator left right, node, part => by
    obtain rfl | inside := List.mem_cons.mp part
    · exact List.Subset.refl _
    · refine List.subset_cons_of_subset _ ?_
      obtain first | second := List.mem_append.mp inside
      · exact List.subset_append_of_subset_left _ (nodes_subset left node first)
      · exact List.subset_append_of_subset_right _ (nodes_subset right node second)
  | .index range facts value position, node, part => by
    obtain rfl | inside := List.mem_cons.mp part
    · exact List.Subset.refl _
    · refine List.subset_cons_of_subset _ ?_
      obtain first | second := List.mem_append.mp inside
      · exact List.subset_append_of_subset_left _ (nodes_subset value node first)
      · exact List.subset_append_of_subset_right _ (nodes_subset position node second)
  | .call range facts callee target arguments, node, part => by
    obtain rfl | inside := List.mem_cons.mp part
    · exact List.Subset.refl _
    · exact List.subset_cons_of_subset _ (nodesOfAll_subset arguments node inside)
  | .unary _ _ _ inner, node, part | .addressOf _ _ inner, node, part | .dereference _ _ inner, node, part
  | .parenthesized _ _ inner, node, part | .member _ _ inner _, node, part | .conversion _ _ inner, node, part => by
    obtain rfl | inside := List.mem_cons.mp part
    · exact List.Subset.refl _
    · exact List.subset_cons_of_subset _ (nodes_subset inner node inside)
  | .reference .., node, part | .literal .., node, part => by
    obtain rfl := List.mem_singleton.mp part
    exact List.Subset.refl _
termination_by structural e => e

theorem nodesOfAll_subset : (es : List TypedExpr) → ∀ node ∈ nodesOfAll es, node.nodes ⊆ nodesOfAll es
  | [], _, part => by cases part
  | e :: rest, node, part => by
    obtain first | others := List.mem_append.mp part
    · exact List.subset_append_of_subset_left _ (nodes_subset e node first)
    · exact List.subset_append_of_subset_right _ (nodesOfAll_subset rest node others)
termination_by structural es => es

end

end TypedExpr

namespace TypedStmt

mutual

def nodes : TypedStmt → List TypedStmt
  | .block body => nodesOfBlock body
  | .branch chosen => nodesOfBranch chosen
  | .whileLoop range condition body => .whileLoop range condition body :: nodesOfBlock body
  | .doWhile range condition body => .doWhile range condition body :: nodesOfBlock body
  | .forLoop range init condition update body =>
    .forLoop range init condition update body
      :: ((init.map TypedStmt.variable).toList ++ (nodesOfUpdate update ++ nodesOfBlock body))
  | .switch range values selector cases fallback =>
    .switch range values selector cases fallback :: (nodesOfCases cases ++ nodesOfFallback fallback)
  | .assignment range operator target value => [.assignment range operator target value]
  | .step range operator target => [.step range operator target]
  | .variable declaration => [.variable declaration]
  | .returning range ty value => [.returning range ty value]
  | .breaking range => [.breaking range]
  | .continuing range => [.continuing range]
  | .discarding range => [.discarding range]
  | .call range called => [.call range called]
termination_by structural s => s

def nodesOfBlock : TypedBlock → List TypedStmt
  | .mk range facts statements => .block (.mk range facts statements) :: nodesOfStmts statements
termination_by structural b => b

def nodesOfStmts : List TypedStmt → List TypedStmt
  | [] => []
  | s :: rest => nodes s ++ nodesOfStmts rest
termination_by structural statements => statements

def nodesOfBranch : TypedBranch → List TypedStmt
  | .mk range condition body otherwise =>
    .branch (.mk range condition body otherwise) :: (nodesOfBlock body ++ nodesOfOtherwise otherwise)
termination_by structural b => b

def nodesOfOtherwise : TypedOtherwise → List TypedStmt
  | .nothing => []
  | .block body => nodesOfBlock body
  | .branch chosen => nodesOfBranch chosen
termination_by structural o => o

def nodesOfUpdate : Option TypedStmt → List TypedStmt
  | none => []
  | some s => nodes s
termination_by structural update => update

def nodesOfCases : List TypedCase → List TypedStmt
  | [] => []
  | .mk _ _ body :: rest => nodesOfBlock body ++ nodesOfCases rest
termination_by structural cases => cases

def nodesOfFallback : Option TypedBlock → List TypedStmt
  | none => []
  | some body => nodesOfBlock body
termination_by structural fallback => fallback

end

/-- The expressions that a statement itself holds, not the statements inside it. -/
def expressions : TypedStmt → List TypedExpr
  | .branch (.mk _ condition _ _) | .whileLoop _ condition _ | .doWhile _ condition _ => [condition]
  | .forLoop _ _ condition _ _ => condition.toList
  | .switch _ _ selector cases _ => selector :: cases.flatMap fun | .mk _ values _ => values
  | .assignment _ _ target value => [target, value]
  | .step _ _ target => [target]
  | .variable declaration => declaration.initializer.toList
  | .returning _ _ value => value.toList
  | .call _ called => [called]
  | .block _ | .breaking _ | .continuing _ | .discarding _ => []

def condition? : TypedStmt → Option TypedExpr
  | .branch (.mk _ condition _ _) | .whileLoop _ condition _ | .doWhile _ condition _ => some condition
  | .forLoop _ _ condition _ _ => condition
  | _ => none

end TypedStmt

namespace TypedDecl

def statements : TypedDecl → List TypedStmt
  | .function _ _ body => (TypedStmt.block body).nodes
  | _ => []

def global? : TypedDecl → Option TypedVariable
  | .variable declaration => some declaration
  | _ => none

end TypedDecl

namespace TypedDocument

def statements (document : TypedDocument) : List TypedStmt := document.declarations.flatMap TypedDecl.statements

def declaredVariables (document : TypedDocument) : List TypedVariable :=
  document.declarations.filterMap TypedDecl.global?
    ++ document.statements.filterMap fun
      | .variable declaration => some declaration
      | _ => none

def expressions (document : TypedDocument) : List TypedExpr :=
  ((document.declarations.filterMap TypedDecl.global?).flatMap (·.initializer.toList)
    ++ document.statements.flatMap TypedStmt.expressions).flatMap TypedExpr.nodes

variable {document : TypedDocument}

/-- What holds of the globals and of the variables in functions holds of all variables. -/
theorem forall_declaredVariables {good : TypedVariable → Prop}
    (globals : ∀ v ∈ document.declarations.filterMap TypedDecl.global?, good v)
    (locals : ∀ v, TypedStmt.variable v ∈ document.statements → good v) : ∀ v ∈ document.declaredVariables, good v := by
  refine List.forall_mem_append.mpr ⟨globals, fun v member => ?_⟩
  obtain ⟨s, inside, found⟩ := List.mem_filterMap.mp member
  cases s with
  | «variable» declaration =>
    cases found
    exact locals _ inside
  | _ => cases found

/-- What holds of the parts of initializers and of the expressions in statements holds of all expressions. -/
theorem forall_expressions {good : TypedExpr → Prop}
    (globals : ∀ v ∈ document.declarations.filterMap TypedDecl.global?, ∀ e ∈ v.initializer.toList,
      ∀ node ∈ e.nodes, good node)
    (inside : ∀ s ∈ document.statements, ∀ e ∈ s.expressions, ∀ node ∈ e.nodes, good node) :
    ∀ e ∈ document.expressions, good e := by
  intro node member
  obtain ⟨e, held, part⟩ := List.mem_flatMap.mp member
  obtain outside | body := List.mem_append.mp held
  · obtain ⟨v, global, given⟩ := List.mem_flatMap.mp outside
    exact globals v global e given node part
  · obtain ⟨s, listed, given⟩ := List.mem_flatMap.mp body
    exact inside s listed e given node part

theorem nodes_subset_expressions {e : TypedExpr} (listed : e ∈ document.expressions) :
    e.nodes ⊆ document.expressions := by
  obtain ⟨root, held, part⟩ := List.mem_flatMap.mp listed
  exact fun node inside => List.mem_flatMap.mpr ⟨root, held, root.nodes_subset e part inside⟩

/-- The initializers of variables are among the expressions. -/
theorem initializer_subset_expressions {v : TypedVariable} (declared : v ∈ document.declaredVariables) {e : TypedExpr}
    (given : e ∈ v.initializer.toList) : e.nodes ⊆ document.expressions := by
  intro node part
  refine List.mem_flatMap.mpr ⟨e, ?_, part⟩
  obtain outside | inside := List.mem_append.mp declared
  · exact List.mem_append_left _ (List.mem_flatMap.mpr ⟨v, outside, given⟩)
  · obtain ⟨s, listed, found⟩ := List.mem_filterMap.mp inside
    cases s with
    | «variable» declaration =>
      cases found
      exact List.mem_append_right _ (List.mem_flatMap.mpr ⟨_, listed, given⟩)
    | _ => cases found

end TypedDocument

end ShaderCheck
