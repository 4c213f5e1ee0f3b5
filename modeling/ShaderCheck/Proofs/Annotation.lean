import ShaderCheck.Proofs.Redeclaration
import ShaderCheck.Proofs.Traversal

/-!
A checked document is the written one with facts on it. A check leaves out no declaration, statement or expression, adds
none, and keeps them in the order they are written in. What it does not keep is the spelling: of an operator the one
that its token stands for is left, of a keyword whether it declares a constant, of a written type what it resolves to.
-/

namespace ShaderCheck

open Noted Attempt

/-- The operator that a token stands for. An unknown one is taken for the first of its family. -/
def OperatorFamily.operator (family : OperatorFamily) (token : String) : BinaryOp :=
  match family with
  | .arithmetic => .arithmetic ((ArithmeticOp.ofToken? token).getD .plus)
  | .bitwise => .bitwise ((BitwiseOp.ofToken? token).getD .and)
  | .comparison => .comparison ((ComparisonOp.ofToken? token).getD .equal)
  | .logical => .logical ((LogicalOp.ofToken? token).getD .and)

/-- An expression with facts is the written one. -/
inductive TypedExpr.Annotates : TypedExpr → Expr → Prop where
  | binary {family : OperatorFamily} {range : Span} {facts : Facts} {token : String} {operator : BinaryOp}
      {left right : TypedExpr} {left' right' : Expr} (read : operator = family.operator token)
      (first : Annotates left left') (second : Annotates right right') :
      Annotates (.binary range facts operator left right) (.binary family range left' token right')
  | unary {range : Span} {facts : Facts} {token : String} {operator : UnaryOp} {operand : TypedExpr} {operand' : Expr}
      (read : operator = (UnaryOp.ofToken? token).getD .negate) (inner : Annotates operand operand') :
      Annotates (.unary range facts operator operand) (.unary range token operand')
  | addressOf {range : Span} {facts : Facts} {operand : TypedExpr} {operand' : Expr}
      (inner : Annotates operand operand') : Annotates (.addressOf range facts operand) (.addressOf range operand')
  | dereference {range : Span} {facts : Facts} {operand : TypedExpr} {operand' : Expr}
      (inner : Annotates operand operand') : Annotates (.dereference range facts operand) (.dereference range operand')
  | parenthesized {range : Span} {facts : Facts} {operand : TypedExpr} {operand' : Expr}
      (inner : Annotates operand operand') :
      Annotates (.parenthesized range facts operand) (.parenthesized range operand')
  | reference {range : Span} {facts : Facts} {name : String} :
      Annotates (.reference range facts name) (.reference range name)
  | literal {range : Span} {facts : Facts} {text : String} : Annotates (.literal range facts text) (.literal range text)
  | call {range : Span} {facts : Facts} {callee : String} {target : CallTarget} {generics : List TypeRef}
      {arguments : List TypedExpr} {arguments' : List Expr} (passed : List.Forall₂ Annotates arguments arguments') :
      Annotates (.call range facts callee target arguments) (.call range callee generics arguments')
  | index {range : Span} {facts : Facts} {value position : TypedExpr} {value' position' : Expr}
      (first : Annotates value value') (second : Annotates position position') :
      Annotates (.index range facts value position) (.index range value' position')
  | member {range : Span} {facts : Facts} {value : TypedExpr} {value' : Expr} {name : String}
      (inner : Annotates value value') : Annotates (.member range facts value name) (.member range value' name)
  | conversion {range : Span} {facts : Facts} {target : TypeRef} {operand : TypedExpr} {operand' : Expr}
      (inner : Annotates operand operand') :
      Annotates (.conversion range facts operand) (.conversion range target operand')

structure TypedVariable.Annotates (typed : TypedVariable) (declaration : VariableDecl) : Prop where
  range : typed.range = declaration.range
  name : typed.binding.name = declaration.name
  constant : typed.binding.constness = .constant ↔ declaration.keyword = "const"
  initializer : Option.Rel TypedExpr.Annotates typed.initializer declaration.initializer

mutual

inductive TypedStmt.Annotates : TypedStmt → Stmt → Prop where
  | block {body : TypedBlock} {body' : Block} (inside : TypedBlock.Annotates body body') :
      TypedStmt.Annotates (.block body) (.block body')
  | branch {chosen : TypedBranch} {chosen' : Branch} (inside : TypedBranch.Annotates chosen chosen') :
      TypedStmt.Annotates (.branch chosen) (.branch chosen')
  | whileLoop {range : Span} {condition : TypedExpr} {condition' : Expr} {body : TypedBlock} {body' : Block}
      (tested : condition.Annotates condition') (inside : TypedBlock.Annotates body body') :
      TypedStmt.Annotates (.whileLoop range condition body) (.whileLoop range condition' body')
  | doWhile {range : Span} {condition : TypedExpr} {condition' : Expr} {body : TypedBlock} {body' : Block}
      (tested : condition.Annotates condition') (inside : TypedBlock.Annotates body body') :
      TypedStmt.Annotates (.doWhile range condition body) (.doWhile range condition' body')
  | forLoop {range : Span} {init : Option TypedVariable} {init' : Option VariableDecl} {condition : Option TypedExpr}
      {condition' : Option Expr} {update : Option TypedStmt} {update' : Option Stmt} {body : TypedBlock} {body' : Block}
      (starts : Option.Rel TypedVariable.Annotates init init')
      (tested : Option.Rel TypedExpr.Annotates condition condition')
      (updates : Option.Rel TypedStmt.Annotates update update') (inside : TypedBlock.Annotates body body') :
      TypedStmt.Annotates (.forLoop range init condition update body) (.forLoop range init' condition' update' body')
  | switch {range : Span} {values : List Int64} {selector : TypedExpr} {selector' : Expr} {cases : List TypedCase}
      {cases' : List Case} {fallback : Option TypedBlock} {fallback' : Option Block}
      (selected : selector.Annotates selector') (inside : List.Forall₂ TypedCase.Annotates cases cases')
      (behind : Option.Rel TypedBlock.Annotates fallback fallback') :
      TypedStmt.Annotates (.switch range values selector cases fallback) (.switch range selector' cases' fallback')
  | assignment {range : Span} {token : String} {operator : AssignmentOp} {target value : TypedExpr}
      {target' value' : Expr} (read : operator = (AssignmentOp.ofToken? token).getD .assign)
      (stored : target.Annotates target') (given : value.Annotates value') :
      TypedStmt.Annotates (.assignment range operator target value) (.assignment range token target' value')
  | step {range : Span} {token : String} {operator : StepOp} {target : TypedExpr} {target' : Expr}
      (read : operator = (StepOp.ofToken? token).getD .increment) (stored : target.Annotates target') :
      TypedStmt.Annotates (.step range operator target) (.step range token target')
  | variable {typed : TypedVariable} {declaration : VariableDecl} (declared : typed.Annotates declaration) :
      TypedStmt.Annotates (.variable typed) (.variable declaration)
  | returning {range : Span} {ty : Ty} {value : Option TypedExpr} {value' : Option Expr}
      (given : Option.Rel TypedExpr.Annotates value value') :
      TypedStmt.Annotates (.returning range ty value) (.returning range value')
  | breaking {range : Span} : TypedStmt.Annotates (.breaking range) (.breaking range)
  | continuing {range : Span} : TypedStmt.Annotates (.continuing range) (.continuing range)
  | discarding {range : Span} : TypedStmt.Annotates (.discarding range) (.discarding range)
  | call {range callRange : Span} {callee : String} {generics : List TypeRef} {arguments : List Expr}
      {called : TypedExpr} (inner : called.Annotates (.call callRange callee generics arguments)) :
      TypedStmt.Annotates (.call range called) (.call range callRange callee generics arguments)

inductive TypedBlock.Annotates : TypedBlock → Block → Prop where
  | mk {range : Span} {facts : BlockFacts} {statements : List TypedStmt} {statements' : List Stmt}
      (inside : List.Forall₂ TypedStmt.Annotates statements statements') :
      TypedBlock.Annotates (.mk range facts statements) (.mk range statements')

inductive TypedBranch.Annotates : TypedBranch → Branch → Prop where
  | mk {range : Span} {condition : TypedExpr} {condition' : Expr} {body : TypedBlock} {body' : Block}
      {otherwise : TypedOtherwise} {otherwise' : Otherwise} (tested : condition.Annotates condition')
      (inside : TypedBlock.Annotates body body') (behind : TypedOtherwise.Annotates otherwise otherwise') :
      TypedBranch.Annotates (.mk range condition body otherwise) (.mk range condition' body' otherwise')

inductive TypedOtherwise.Annotates : TypedOtherwise → Otherwise → Prop where
  | nothing : TypedOtherwise.Annotates .nothing .nothing
  | block {body : TypedBlock} {body' : Block} (inside : TypedBlock.Annotates body body') :
      TypedOtherwise.Annotates (.block body) (.block body')
  | branch {chosen : TypedBranch} {chosen' : Branch} (inside : TypedBranch.Annotates chosen chosen') :
      TypedOtherwise.Annotates (.branch chosen) (.branch chosen')

inductive TypedCase.Annotates : TypedCase → Case → Prop where
  | mk {range : Span} {values : List TypedExpr} {values' : List Expr} {body : TypedBlock} {body' : Block}
      (selects : List.Forall₂ TypedExpr.Annotates values values') (inside : TypedBlock.Annotates body body') :
      TypedCase.Annotates (.mk range values body) (.mk range values' body')

end

/-- A declaration with facts is the written one. Of a function whose name stands for another one only the place is
left. -/
inductive TypedDecl.Annotates : TypedDecl → Decl → Prop where
  | function {declaration : FunctionDecl} {function : Function} {body : TypedBlock}
      (name : function.name = declaration.name) (inside : body.Annotates declaration.body) :
      Annotates (.function declaration.range function body) (.function declaration)
  | duplicate {declaration : FunctionDecl} :
      Annotates (.duplicate declaration.range declaration.body.range) (.function declaration)
  | enumeration {declaration : EnumDecl} {enumeration : Enumeration} (name : enumeration.name = declaration.name) :
      Annotates (.enumeration declaration.range enumeration) (.enumeration declaration)
  | struct {declaration : StructDecl} {layout : Layout} (name : layout.name = declaration.name) :
      Annotates (.struct declaration.range layout) (.struct declaration)
  | alias {declaration : AliasDecl} {ty : Ty} : Annotates (.alias declaration.range ty) (.alias declaration)
  | variable {typed : TypedVariable} {declaration : VariableDecl} (declared : typed.Annotates declaration) :
      Annotates (.variable typed) (.variable declaration)

structure TypedDocument.Annotates (typed : TypedDocument) (document : Document) : Prop where
  range : typed.range = document.range
  counts : typed.counts = document.counts
  declarations : List.Forall₂ TypedDecl.Annotates typed.declarations document.declarations

theorem value_operatorOr {α : Type} {node : NodeRef} {family token : String} {found : Option α} {fallback : α} :
    (operatorOr node family token found fallback).value = found.getD fallback := by
  cases found <;> rfl

namespace Expr

theorem operator_checkBinary {family : OperatorFamily} {node : NodeRef} {token : String} {left right : Facts} :
    (checkBinary family node token left right).value.1 = family.operator token := by
  cases family with
  | arithmetic => exact congrArg BinaryOp.arithmetic value_operatorOr
  | bitwise => exact congrArg BinaryOp.bitwise value_operatorOr
  | comparison => exact congrArg BinaryOp.comparison value_operatorOr
  | logical => exact congrArg BinaryOp.logical value_operatorOr

mutual

/-- A check gives an expression its facts and leaves it as it is. -/
theorem check_annotates (env : Env) : (e : Expr) → (e.check env).value.Annotates e
  | .binary _ _ left _ right => .binary operator_checkBinary (check_annotates env left) (check_annotates env right)
  | .unary _ _ operand => .unary value_operatorOr (check_annotates env operand)
  | .addressOf _ operand => .addressOf (check_annotates env operand)
  | .dereference _ operand => .dereference (check_annotates env operand)
  | .parenthesized _ inner => .parenthesized (check_annotates env inner)
  | .reference .. => .reference
  | .literal .. => .literal
  | .call _ _ _ arguments => .call (checkAll_annotates env arguments)
  | .index _ value position => .index (check_annotates env value) (check_annotates env position)
  | .member _ value _ => .member (check_annotates env value)
  | .conversion _ _ operand => .conversion (check_annotates env operand)
termination_by structural e => e

theorem checkAll_annotates (env : Env) :
    (es : List Expr) → List.Forall₂ TypedExpr.Annotates (checkAll env es).value es
  | [] => .nil
  | e :: rest => .cons (check_annotates env e) (checkAll_annotates env rest)
termination_by structural es => es

end

theorem checkOptional_annotates (env : Env) (e : Option Expr) :
    Option.Rel TypedExpr.Annotates (checkOptional env e).value e := by
  cases e with
  | none => exact .none
  | some e => exact .some (e.check_annotates env)

end Expr

variable {allowed : Incident → Prop} {env after : Env}

namespace VariableDecl

theorem localConstness?_constant (keyword : String) :
    (localConstness? keyword).getD .variable = .constant ↔ keyword = "const" := by
  unfold localConstness?
  split <;> simp_all

theorem globalKind?_constant (keyword : String) :
    ((globalKind? keyword).map Prod.fst).getD .variable = .constant ↔ keyword = "const" := by
  unfold globalKind?
  split <;> simp_all

variable {declaration : VariableDecl}

theorem localBinding_constant :
    (declaration.localBinding env).value.1.constness = .constant ↔ declaration.keyword = "const" := by
  rw [← localConstness?_constant]
  unfold localBinding
  split
  case h_1 constness known =>
    simp only [value_bind, value_pure, known, Option.getD_some]
    split <;> rfl
  case h_2 unknown =>
    simp only [value_bind, value_pure, unknown, Option.getD_none]
    split <;> rfl

theorem globalBinding_constant :
    (declaration.globalBinding env).value.1.constness = .constant ↔ declaration.keyword = "const" := by
  rw [← globalKind?_constant]
  unfold globalBinding
  split
  case h_1 kind known =>
    simp only [value_bind, value_pure, known, Option.map_some, Option.getD_some]
    split <;> rfl
  case h_2 unknown =>
    rw [unknown]
    rfl

theorem Bound.annotates {node : NodeRef} {binding : Binding} {initializer : Option TypedExpr}
    (bound : Bound allowed env node declaration binding initializer) (name : binding.name = declaration.name)
    (constant : binding.constness = .constant ↔ declaration.keyword = "const") :
    TypedVariable.Annotates ⟨declaration.range, binding, initializer⟩ declaration := by
  refine ⟨rfl, name, constant, ?_⟩
  rw [bound.value]
  exact Expr.checkOptional_annotates env declaration.initializer

theorem checkLocal_annotates {typed : TypedVariable}
    (yields : Yields allowed (declaration.checkLocal env) (typed, after)) : typed.Annotates declaration := by
  simp only [checkLocal, yields_bind, yields_pure, yields_lift, yields_of] at yields
  obtain ⟨_, ⟨rfl, within⟩, _, -, ⟨⟩⟩ := yields
  exact (localBinding_bound within).annotates (declaration.name_localBinding env) localBinding_constant

theorem checkGlobal_annotates {typed : TypedDecl}
    (yields : Yields allowed (declaration.checkGlobal env) (typed, after)) :
    typed.Annotates (.variable declaration) := by
  simp only [checkGlobal, yields_bind, yields_pure, yields_lift, yields_of] at yields
  obtain ⟨_, ⟨rfl, within⟩, _, -, ⟨⟩⟩ := yields
  exact .variable ((globalBinding_bound within).annotates (declaration.name_globalBinding env) globalBinding_constant)

theorem checkOptional_annotates {declaration : Option VariableDecl} {typed : Option TypedVariable}
    (yields : Yields allowed (checkOptional env declaration) (typed, after)) :
    Option.Rel TypedVariable.Annotates typed declaration := by
  cases declaration with
  | none =>
    simp only [checkOptional, yields_pure] at yields
    cases yields
    exact .none
  | some declaration =>
    simp only [checkOptional, yields_bind, yields_pure] at yields
    obtain ⟨_, declares, ⟨⟩⟩ := yields
    exact .some (checkLocal_annotates declares)

end VariableDecl

namespace Stmt

theorem value_checkAssignment (node : NodeRef) (token : String) (target value : Facts) :
    (checkAssignment node token target value).value = (AssignmentOp.ofToken? token).getD .assign := by
  simp only [checkAssignment, value_bind]
  split <;> exact value_operatorOr

theorem value_checkStep (node : NodeRef) (token : String) (target : Facts) :
    (checkStep node token target).value = (StepOp.ofToken? token).getD .increment := by
  simp only [checkStep, value_bind]
  split <;> exact value_operatorOr

theorem checkCaseValues_annotates (env : Env) (seen : List Int64) (values : List Expr) :
    List.Forall₂ TypedExpr.Annotates (checkCaseValues env seen values).value.1 values := by
  induction values generalizing seen with
  | nil => exact .nil
  | cons e rest ih => exact .cons (e.check_annotates env) (ih _)

mutual

/-- A check gives a statement its facts and leaves it as it is. -/
theorem check_annotates : (s : Stmt) → {env after : Env} → {typed : TypedStmt} →
    Yields allowed (check env s) (typed, after) → typed.Annotates s
  | .block body, _, _, _, yields => by
    cases outcome_of_yields yields with
    | block inside => exact .block (checkBlock_annotates body inside)
  | .branch chosen, _, _, _, yields => by
    simp only [check, yields_bind, yields_pure] at yields
    obtain ⟨_, inside, ⟨⟩⟩ := yields
    exact .branch (checkBranch_annotates chosen inside)
  | .whileLoop _ condition body, _, _, _, yields => by
    cases outcome_of_yields yields with
    | whileLoop _ _ _ inside => exact .whileLoop (condition.check_annotates _) (checkBlock_annotates body inside)
  | .doWhile _ condition body, _, _, _, yields => by
    cases outcome_of_yields yields with
    | doWhile _ _ _ inside => exact .doWhile (condition.check_annotates _) (checkBlock_annotates body inside)
  | .forLoop _ init condition update body, _, _, _, yields => by
    cases outcome_of_yields yields with
    | forLoop _ starts _ _ updates inside =>
      exact .forLoop (VariableDecl.checkOptional_annotates starts) (Expr.checkOptional_annotates _ condition)
        (checkUpdate_annotates update updates) (checkBlock_annotates body inside)
  | .switch _ selector cases fallback, _, _, _, yields => by
    cases outcome_of_yields yields with
    | switch _ _ inside behind =>
      exact .switch (selector.check_annotates _) (checkCases_annotates cases inside)
        (checkFallback_annotates fallback behind)
  | .assignment _ _ target value, _, _, _, yields => by
    cases outcome_of_yields yields with
    | assignment _ _ assigns =>
      refine .assignment ?_ (target.check_annotates _) (value.check_annotates _)
      rw [← assigns, value_checkAssignment]
  | .step _ _ target, _, _, _, yields => by
    cases outcome_of_yields yields with
    | step _ steps =>
      refine .step ?_ (target.check_annotates _)
      rw [← steps, value_checkStep]
  | .variable declaration, _, _, _, yields => by
    cases outcome_of_yields yields with
    | «variable» declares => exact .variable (VariableDecl.checkLocal_annotates declares)
  | .returning _ value, _, _, _, yields => by
    cases outcome_of_yields yields with
    | returning => exact .returning (Expr.checkOptional_annotates _ value)
  | .breaking _, _, _, _, yields => by
    cases outcome_of_yields yields
    exact .breaking
  | .continuing _, _, _, _, yields => by
    cases outcome_of_yields yields
    exact .continuing
  | .discarding _, _, _, _, yields => by
    cases outcome_of_yields yields
    exact .discarding
  | .call .., _, _, _, yields => by
    cases outcome_of_yields yields
    exact .call (Expr.check_annotates _ _)
termination_by structural s => s

theorem checkBlock_annotates : (body : Block) → {env : Env} → {typed : TypedBlock} →
    Yields allowed (checkBlock env body) typed → typed.Annotates body
  | .mk _ statements, _, _, yields => by
    simp only [checkBlock, openScope, yields_bind, yields_pure, yields_of] at yields
    obtain ⟨_, -, _, inside, rfl⟩ := yields
    exact .mk (checkStmts_annotates statements inside)
termination_by structural b => b

theorem checkStmts_annotates : (statements : List Stmt) → {env : Env} → {typed : List TypedStmt} →
    Yields allowed (checkStmts env statements) typed → List.Forall₂ TypedStmt.Annotates typed statements
  | [], _, _, yields => by
    simp only [checkStmts, yields_pure] at yields
    subst yields
    exact .nil
  | s :: rest, _, _, yields => by
    simp only [checkStmts, yields_bind, yields_pure] at yields
    obtain ⟨⟨_, _⟩, first, _, others, rfl⟩ := yields
    exact .cons (check_annotates s first) (checkStmts_annotates rest others)
termination_by structural statements => statements

theorem checkBranch_annotates : (chosen : Branch) → {env : Env} → {typed : TypedBranch} →
    Yields allowed (checkBranch env chosen) typed → typed.Annotates chosen
  | .mk _ condition body otherwise, _, _, yields => by
    simp only [checkBranch, yields_bind, yields_pure, yields_lift] at yields
    obtain ⟨_, ⟨rfl, -⟩, _, -, _, inside, _, behind, rfl⟩ := yields
    exact .mk (condition.check_annotates _) (checkBlock_annotates body inside)
      (checkOtherwise_annotates otherwise behind)
termination_by structural b => b

theorem checkOtherwise_annotates : (otherwise : Otherwise) → {env : Env} → {typed : TypedOtherwise} →
    Yields allowed (checkOtherwise env otherwise) typed → typed.Annotates otherwise
  | .nothing, _, _, yields => by
    simp only [checkOtherwise, yields_pure] at yields
    subst yields
    exact .nothing
  | .block body, _, _, yields => by
    simp only [checkOtherwise, yields_bind, yields_pure] at yields
    obtain ⟨_, inside, rfl⟩ := yields
    exact .block (checkBlock_annotates body inside)
  | .branch chosen, _, _, yields => by
    simp only [checkOtherwise, yields_bind, yields_pure] at yields
    obtain ⟨_, inside, rfl⟩ := yields
    exact .branch (checkBranch_annotates chosen inside)
termination_by structural o => o

theorem checkUpdate_annotates : (update : Option Stmt) → {env after : Env} → {typed : Option TypedStmt} →
    Yields allowed (checkUpdate env update) (typed, after) → Option.Rel TypedStmt.Annotates typed update
  | none, _, _, _, yields => by
    simp only [checkUpdate, yields_pure] at yields
    cases yields
    exact .none
  | some s, _, _, _, yields => by
    simp only [checkUpdate, yields_bind, yields_pure] at yields
    obtain ⟨⟨_, _⟩, itself, ⟨⟩⟩ := yields
    exact .some (check_annotates s itself)
termination_by structural update => update

theorem checkCases_annotates : (cases : List Case) → {env : Env} → {seen values : List Int64} →
    {typed : List TypedCase} → Yields allowed (checkCases env seen cases) (typed, values) →
    List.Forall₂ TypedCase.Annotates typed cases
  | [], _, _, _, _, yields => by
    simp only [checkCases, yields_pure] at yields
    cases yields
    exact .nil
  | .mk _ values body :: rest, _, _, _, _, yields => by
    simp only [checkCases, yields_bind, yields_pure, yields_lift] at yields
    obtain ⟨_, ⟨rfl, -⟩, _, inside, ⟨_, _⟩, others, ⟨⟩⟩ := yields
    exact .cons (.mk (checkCaseValues_annotates _ _ values) (checkBlock_annotates body inside))
      (checkCases_annotates rest others)
termination_by structural cases => cases

theorem checkFallback_annotates : (fallback : Option Block) → {env : Env} → {typed : Option TypedBlock} →
    Yields allowed (checkFallback env fallback) typed → Option.Rel TypedBlock.Annotates typed fallback
  | none, _, _, yields => by
    simp only [checkFallback, yields_pure] at yields
    subst yields
    exact .none
  | some body, _, _, yields => by
    simp only [checkFallback, yields_bind, yields_pure] at yields
    obtain ⟨_, inside, rfl⟩ := yields
    exact .some (checkBlock_annotates body inside)
termination_by structural fallback => fallback

end

end Stmt

theorem FunctionDecl.check_annotates {declaration : FunctionDecl} {typed : TypedDecl}
    (yields : Yields allowed (declaration.check env) typed) : typed.Annotates (.function declaration) := by
  cases outcome_of_yields yields with
  | duplicate => exact .duplicate
  | function registered _ inside =>
    obtain ⟨found, -⟩ := Option.filter_eq_some_iff.mp registered
    exact .function (by simpa using List.find?_some found) (Stmt.checkBlock_annotates _ inside)

theorem Decl.check_annotates {declaration : Decl} {typed : TypedDecl}
    (yields : Yields allowed (declaration.check env) (typed, after)) : typed.Annotates declaration := by
  cases declaration with
  | function declaration =>
    simp only [check, yields_bind, yields_pure] at yields
    obtain ⟨_, checked, ⟨⟩⟩ := yields
    exact declaration.check_annotates checked
  | enumeration declaration =>
    simp only [check, EnumDecl.check, EnumDecl.collect, yields_bind, yields_pure] at yields
    obtain ⟨_, ⟨_, -, _, -, rfl⟩, _, -, ⟨⟩⟩ := yields
    exact .enumeration rfl
  | struct declaration =>
    simp only [check, yields_bind, yields_pure, yields_lift] at yields
    obtain ⟨_, ⟨rfl, -⟩, ⟨⟩⟩ := yields
    exact .struct rfl
  | «alias» declaration =>
    simp only [check, yields_bind, yields_pure, yields_lift] at yields
    obtain ⟨_, ⟨rfl, -⟩, ⟨⟩⟩ := yields
    exact .alias
  | «variable» declaration => exact declaration.checkGlobal_annotates yields

namespace Document

/-- The rounds put the facts of each declaration where it is written. -/
theorem effect_annotates {document : Document} {typed : TypedDocument}
    (yields : Yields allowed (document.effect {}) (typed, after)) : typed.Annotates document := by
  have keeps : document.KeepsUp allowed (fun _ => True) (fun _ _ => True)
      fun _ declaration one => one.Annotates declaration :=
    { start := trivial
      types := fun _ _ checked => ⟨trivial, fun _ => Decl.check_annotates checked⟩
      signatures := fun _ _ _ => trivial
      globals := fun _ _ checked => ⟨trivial, Decl.check_annotates checked⟩
      bodies := fun _ _ _ checked => ⟨trivial, Decl.check_annotates checked⟩ }
  obtain ⟨_, -, declarations⟩ := keeps.effect yields
  simp only [Document.effect, yields_bind, yields_pure] at yields
  obtain ⟨_, -, _, -, _, -, _, -, _, -, _, -, ⟨⟩⟩ := yields
  exact ⟨rfl, rfl, declarations.flip⟩

end Document

end ShaderCheck
