import ShaderCheck.Check.Expr
import ShaderCheck.Typed.Stmt

/-!
The facts of statements. A statement is checked where some scopes are open, and leaves what is in force for
the statement after it: the same, or with one more variable in the innermost scope.
-/

namespace ShaderCheck

namespace Attempt

/-- A change of what is in force, which notes nothing. -/
def of {α : Type} (result : Except Fault α) : Attempt α := ExceptT.mk (pure result)

end Attempt

namespace VariableDecl

def localConstness? : String → Option Constness
  | "const" => some .constant
  | "let" => some .variable
  | _ => none

def checkConstantInitializer (node : NodeRef) (name : String) : Option Facts → Noted Unit
  | none => Noted.report node (.constantWithoutInitializer name)
  | some value =>
    Noted.expect (value.ty.isInvalid || value.constness = .constant) node
      (.nonConstantInitializer name)

/-- The type of a variable: the declared one, or else that of its initializer. What varies is stored, so an
abstract number takes on a format in it. -/
def bindingType (node : NodeRef) (name : String) (constness : Constness) :
    Option Ty → Option Facts → Noted Ty
  | some declared, some value => do
    Noted.expect (declared.isInvalid || value.ty.isInvalid || value.ty.castsTo declared) node
      (.initializerMismatch name declared value.ty)
    return declared
  | some declared, none => pure declared
  | none, some value => pure (if constness = .variable then value.ty.concretize else value.ty)
  | none, none => do
    Noted.report node (.untypedVariable name)
    return .invalid

def declaredType (env : Env) : Option TypeRef → Noted (Option Ty)
  | none => pure none
  | some ref => do
    let ty ← ref.resolve env.symbols
    return some ty

def keptValue (constness : Constness) (initializer : Option Facts) : Option Constant :=
  match constness with
  | .constant => initializer.bind (·.value)
  | .variable => none

def localBinding (env : Env) (declaration : VariableDecl) :
    Noted (Binding × Option TypedExpr) := do
  let node : NodeRef := ⟨.localVariable, declaration.range⟩
  let constness ← match localConstness? declaration.keyword with
    | some constness => pure constness
    | none => do
      Noted.report node (.unknownLocalKeyword declaration.keyword)
      pure .variable
  let initializer ← Expr.checkOptional env declaration.initializer
  let facts := initializer.map TypedExpr.facts
  let declared ← declaredType env declaration.type
  match constness, declared with
  | .constant, _ => checkConstantInitializer node declaration.name facts
  | .variable, some ty =>
    Noted.expect (ty.isInvalid || ty.traits.storable) node (.notStorable ty declaration.name)
  | .variable, none => pure ()
  let ty ← bindingType node declaration.name constness declared facts
  return (⟨declaration.name, ty, constness, .function, keptValue constness facts⟩, initializer)

def checkLocal (env : Env) (declaration : VariableDecl) : Attempt (TypedVariable × Env) := do
  let (binding, initializer) ← localBinding env declaration
  let env ← Attempt.of (env.declare binding)
  return (⟨declaration.range, binding, initializer⟩, env)

def checkOptional (env : Env) : Option VariableDecl → Attempt (Option TypedVariable × Env)
  | none => pure (none, env)
  | some declaration => do
    let (typed, env) ← checkLocal env declaration
    return (some typed, env)

end VariableDecl

namespace Stmt

def checkCondition (node : NodeRef) (construct : String) (condition : Facts) : Noted Unit :=
  Noted.expect (condition.ty.isInvalid || condition.ty.castsTo .bool) node
    (.nonBooleanCondition construct condition.ty)

/-- Whether a target can be written to. What is wrong with one that cannot is reported, unless it is invalid. -/
def checkTarget (node : NodeRef) (target : Facts) : Noted Bool :=
  if target.ty.isInvalid then pure false
  else if target.constness = .constant then do
    Noted.report node .constantAssigned
    return false
  else if !target.storage then do
    Noted.report node .targetNotStorage
    return false
  else pure true

def assignedType (node : NodeRef) (operator : AssignmentOp) (target value : Facts) : Noted Ty :=
  match operator with
  | .assign => pure value.ty
  | .arithmetic op => (op.resultType target.ty value.ty).report node
  | .bitwise op => (op.resultType target.ty target.storage value.ty).report node

def checkAssignment (node : NodeRef) (token : String) (target value : Facts) : Noted AssignmentOp := do
  let operator ← operatorOr node "assignment" token (AssignmentOp.ofToken? token) .assign
  if (← checkTarget node target) && !value.ty.isInvalid then
    let assigned ← assignedType node operator target value
    Noted.expect (assigned.isInvalid || assigned.castsTo target.ty) node
      (.notAssignable assigned target.ty)
  return operator

def checkStep (node : NodeRef) (token : String) (target : Facts) : Noted StepOp := do
  let operator ← operatorOr node "step" token (StepOp.ofToken? token) .increment
  if ← checkTarget node target then
    Noted.expect target.ty.isIntegral node (.notSteppable target.ty)
  return operator

/-- The type that a function's body has to return. One with several headers, or with a generic result, leaves it
to its callers. -/
def expectedReturn? (function : Function) : Option Ty :=
  match function.headers with
  | [header] =>
    match header.returns with
    | .concrete ty => some ty
    | .generic _ => none
  | _ => none

def checkReturn (env : Env) (node : NodeRef) (ty : Ty) : Noted Unit :=
  match env.owner? .function with
  | none => Noted.report node .returnOutsideFunction
  | some (.function _ declaration) =>
    match expectedReturn? declaration with
    | some expected =>
      Noted.expect (ty.isInvalid || expected.isInvalid || ty.castsTo expected) node
        (.returnMismatch ty expected declaration.name)
    | none => pure ()
  | some _ => pure ()

def isUpdate : Stmt → Bool
  | .assignment .. | .step .. | .call .. => true
  | _ => false

def checkCaseValue (seen : List Int64) (node : NodeRef) (facts : Facts) : Noted (List Int64) :=
  if facts.ty.isInvalid then pure seen
  else if !facts.ty.isIntegral then do
    Noted.report node (.caseNotInteger facts.ty)
    return seen
  else if facts.constness ≠ .constant then do
    Noted.report node .caseNotConstant
    return seen
  else
    match facts.value.bind Constant.integer? with
    | none => pure seen
    | some value =>
      if seen.contains value then do
        Noted.report node (.repeatedCase value)
        return seen
      else pure (seen ++ [value])

def checkCaseValues (env : Env) (seen : List Int64) :
    List Expr → Noted (List TypedExpr × List Int64)
  | [] => pure ([], seen)
  | value :: rest => do
    let value ← value.check env
    let seen ← checkCaseValue seen value.node value.facts
    let (values, seen) ← checkCaseValues env seen rest
    return (value :: values, seen)

def openScope (env : Env) (kind : ScopeKind) (node : NodeRef) : Attempt Env :=
  Attempt.of (env.openScope kind (.construct node))

mutual

/-- Checks a statement, and tells what is in force after it. -/
def check (env : Env) : Stmt → Attempt (TypedStmt × Env)
  | .block body => do
    let body ← checkBlock env body
    return (.block body, env)
  | .branch chosen => do
    let chosen ← checkBranch env chosen
    return (.branch chosen, env)
  | .whileLoop range condition body => do
    let inner ← openScope env .loop ⟨.whileLoop, range⟩
    let condition ← condition.check inner
    checkCondition ⟨.whileLoop, range⟩ "while" condition.facts
    let body ← checkBlock inner body
    return (.whileLoop range condition body, env)
  | .doWhile range condition body => do
    let inner ← openScope env .loop ⟨.doWhile, range⟩
    let body ← checkBlock inner body
    let condition ← condition.check inner
    checkCondition ⟨.doWhile, range⟩ "do while" condition.facts
    return (.doWhile range condition body, env)
  | .forLoop range init condition update body => do
    Noted.expect (update.all isUpdate) ⟨.forLoop, range⟩ .forUpdate
    let inner ← openScope env .loop ⟨.forLoop, range⟩
    let (init, inner) ← VariableDecl.checkOptional inner init
    let condition ← Expr.checkOptional inner condition
    match condition with
    | some condition => checkCondition ⟨.forLoop, range⟩ "for" condition.facts
    | none => pure ()
    let (update, inner) ← checkUpdate inner update
    let body ← checkBlock inner body
    return (.forLoop range init condition update body, env)
  | .switch range selector cases fallback => do
    let selector ← selector.check env
    Noted.expect (selector.facts.ty.isInvalid || selector.facts.ty.isIntegral) ⟨.switch, range⟩
      (.selectorNotInteger selector.facts.ty)
    let inner ← openScope env .switch ⟨.switch, range⟩
    let (cases, values) ← checkCases inner [] cases
    let fallback ← checkFallback inner fallback
    return (.switch range values selector cases fallback, env)
  | .assignment range operator target value => do
    let target ← target.check env
    let value ← value.check env
    let operator ← checkAssignment ⟨.assignment, range⟩ operator target.facts value.facts
    return (.assignment range operator target value, env)
  | .step range operator target => do
    let target ← target.check env
    let operator ← checkStep ⟨.step, range⟩ operator target.facts
    return (.step range operator target, env)
  | .variable declaration => do
    let (declaration, env) ← declaration.checkLocal env
    return (.variable declaration, env)
  | .returning range value => do
    let value ← Expr.checkOptional env value
    let ty := (value.map fun e => e.facts.ty).getD .void
    checkReturn env ⟨.returning, range⟩ ty
    return (.returning range ty value, env)
  | .breaking range => do
    Noted.expect (env.isInside .loop || env.isInside .switch) ⟨.breaking, range⟩ .breakOutsideLoop
    return (.breaking range, env)
  | .continuing range => do
    Noted.expect (env.isInside .loop) ⟨.continuing, range⟩ .continueOutsideLoop
    return (.continuing range, env)
  | .discarding range => do
    Noted.expect (env.isInside .function) ⟨.discarding, range⟩ .discardOutsideFunction
    return (.discarding range, env)
  | .call range callRange callee generics arguments => do
    let called ← (Expr.call callRange callee generics arguments).check env
    return (.call range called, env)
termination_by structural s => s

def checkBlock (env : Env) : Block → Attempt TypedBlock
  | .mk range statements => do
    let inner ← openScope env .inherit ⟨.block, range⟩
    let statements ← checkStmts inner statements
    return .mk range (.ofStatements statements) statements
termination_by structural b => b

def checkStmts (env : Env) : List Stmt → Attempt (List TypedStmt)
  | [] => pure []
  | s :: rest => do
    let (s, env) ← check env s
    let rest ← checkStmts env rest
    return s :: rest
termination_by structural statements => statements

def checkBranch (env : Env) : Branch → Attempt TypedBranch
  | .mk range condition body otherwise => do
    let condition ← condition.check env
    checkCondition ⟨.branch, range⟩ "if" condition.facts
    let body ← checkBlock env body
    let otherwise ← checkOtherwise env otherwise
    return .mk range condition body otherwise
termination_by structural b => b

def checkOtherwise (env : Env) : Otherwise → Attempt TypedOtherwise
  | .nothing => pure .nothing
  | .block body => do
    let body ← checkBlock env body
    return .block body
  | .branch chosen => do
    let chosen ← checkBranch env chosen
    return .branch chosen
termination_by structural o => o

def checkUpdate (env : Env) : Option Stmt → Attempt (Option TypedStmt × Env)
  | none => pure (none, env)
  | some s => do
    let (s, env) ← check env s
    return (some s, env)
termination_by structural update => update

def checkCases (env : Env) (seen : List Int64) : List Case → Attempt (List TypedCase × List Int64)
  | [] => pure ([], seen)
  | .mk range values body :: rest => do
    let (values, seen) ← checkCaseValues env seen values
    let body ← checkBlock env body
    let (cases, seen) ← checkCases env seen rest
    return (.mk range values body :: cases, seen)
termination_by structural cases => cases

def checkFallback (env : Env) : Option Block → Attempt (Option TypedBlock)
  | none => pure none
  | some body => do
    let body ← checkBlock env body
    return some body
termination_by structural fallback => fallback

end

end Stmt

end ShaderCheck
