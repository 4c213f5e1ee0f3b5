import ShaderCheck.Proofs.Declarations

/-!
The check of statements and functions as a walk over one context, which opens each scope when it comes to it and closes
it however what is inside ends. The walk comes to the same as the check: whatever a fault leaves behind in the innermost
scope is gone once that scope is closed.
-/

namespace ShaderCheck

open Attempt

namespace Analysis

variable {α β : Type}

def still (step : Env → Attempt α) : Analysis α := attempt fun env => do
  let a ← step env
  return (a, env)

theorem run_still (step : Env → Attempt α) (context : Context) :
    (still step).run context =
      ((step context.env).result, { context with notes := context.notes ++ (step context.env).notes }) := by
  rw [still, run_attempt, result_bind]
  cases ends : (step context.env).result with
  | ok a =>
    rw [notes_bind_ok ends, notes_pure, Notes.append_empty]
    rfl
  | error fault =>
    rw [notes_bind_error ends]
    rfl

theorem ext_run {step other : Analysis α} (same : ∀ context, step.run context = other.run context) : step = other :=
  funext same

theorem still_bind (step : Env → Attempt α) (next : α → Env → Attempt β) :
    (still step >>= fun a => still (next a)) = still fun env => step env >>= fun a => next a env := by
  apply ext_run
  intro context
  rw [run_bind, run_still, run_still, result_bind]
  cases ends : (step context.env).result with
  | ok a =>
    rw [notes_bind_ok ends, ← Notes.append_assoc]
    exact run_still (next a) _
  | error fault =>
    rw [notes_bind_error ends]
    rfl

theorem still_bind_attempt (step : Env → Attempt α) (next : α → Env → Attempt (β × Env)) :
    (still step >>= fun a => attempt (next a)) = attempt fun env => step env >>= fun a => next a env := by
  apply ext_run
  intro context
  rw [run_bind, run_still, run_attempt, result_bind]
  cases ends : (step context.env).result with
  | ok a =>
    rw [notes_bind_ok ends, ← Notes.append_assoc]
    exact run_attempt (next a) _
  | error fault =>
    rw [notes_bind_error ends]
    rfl

theorem attempt_map (effect : Env → Attempt (α × Env)) (f : α → β) :
    (attempt effect >>= fun a => pure (f a)) =
      attempt fun env => effect env >>= fun outcome => pure (f outcome.1, outcome.2) := by
  apply ext_run
  intro context
  rw [run_bind, run_attempt, run_attempt, result_bind]
  cases ends : (effect context.env).result with
  | ok outcome =>
    rw [notes_bind_ok ends, notes_pure, Notes.append_empty]
    rfl
  | error fault =>
    rw [notes_bind_error ends]
    rfl

theorem update_eq_attempt (change : Env → Except Fault Env) :
    update change = attempt fun env => Attempt.of (change env) >>= fun after => pure ((), after) := by
  apply ext_run
  intro context
  rw [run_attempt, result_bind, result_of]
  cases changed : change context.env with
  | ok after =>
    rw [notes_bind_ok (result_of _), notes_of, notes_pure, Notes.append_empty, Notes.append_empty]
    simp only [run, update, changed]
    rfl
  | error fault =>
    rw [notes_bind_error (result_of _), notes_of, Notes.append_empty]
    simp only [run, update, changed]
    rfl

theorem note_eq_still (step : Env → Noted α) : note step = still fun env => liftM (step env) := by
  apply ext_run
  intro context
  rw [run_still, result_lift, notes_lift]
  rfl

theorem still_eq_attempt {step : Env → Attempt α} {effect : Env → Attempt (α × Env)}
    (same : ∀ env, effect env = step env >>= fun a => pure (a, env)) : still step = attempt effect :=
  congrArg attempt (funext fun env => (same env).symm)

theorem pure_eq_still (a : α) : (pure a : Analysis α) = still fun _ => pure a := by
  apply ext_run
  intro context
  rw [run_still, result_pure, notes_pure, Notes.append_empty]
  rfl

end Analysis

structure Env.SameOutside (before after : Env) : Prop where
  document : after.document = before.document
  symbols : after.symbols = before.symbols
  outer : after.scopes.tail = before.scopes.tail

namespace Env.SameOutside

variable {first second third env after : Env}

theorem refl (env : Env) : SameOutside env env := ⟨rfl, rfl, rfl⟩

theorem trans (one : SameOutside first second) (two : SameOutside second third) : SameOutside first third :=
  ⟨two.document.trans one.document, two.symbols.trans one.symbols, two.outer.trans one.outer⟩

theorem of_declare {binding : Binding} (declared : env.declare binding = .ok after) : SameOutside env after := by
  obtain ⟨scope, outer, scopes, rfl⟩ := declare_eq_ok declared
  exact ⟨rfl, rfl, by rw [scopes]; rfl⟩

/-- Closing a scope brings back what was in force before it was opened. -/
theorem closeScope {kind : ScopeKind} {owner : ScopeOwner} {inner : Env} (opened : env.openScope kind owner = .ok inner)
    (same : SameOutside inner after) : after.closeScope = env := by
  obtain rfl := openScope_eq_ok opened
  obtain ⟨document, scopes, symbols⟩ := after
  obtain ⟨rfl, rfl, outer⟩ := same
  rw [Env.closeScope, outer]
  rfl

end Env.SameOutside

namespace Analysis

variable {α β : Type}

/-- A step comes to what an effect says, and changes nothing outside the innermost scope. -/
def Inside (step : Analysis α) (effect : Env → Attempt α) : Prop :=
  ∀ context : Context, ∃ after : Context,
    step.run context = ((effect context.env).result, after)
    ∧ after.notes = context.notes ++ (effect context.env).notes
    ∧ context.env.SameOutside after.env

theorem Inside.still (effect : Env → Attempt α) : Inside (Analysis.still effect) effect := by
  intro context
  exact ⟨_, run_still effect context, rfl, .refl _⟩

theorem Inside.of_eq {step : Analysis α} {effect other : Env → Attempt α} (inside : Inside step effect)
    (same : ∀ env, other env = effect env) : Inside step other := by
  obtain rfl := funext same
  exact inside

/-- A first step may declare something in the innermost scope. -/
theorem Inside.attempt_bind {effect : Env → Attempt (α × Env)} {next : α → Analysis β}
    {later : α → Env → Attempt β}
    (frames : ∀ {env a after}, (effect env).result = .ok (a, after) → env.SameOutside after)
    (second : ∀ a, Inside (next a) (later a)) :
    Inside (attempt effect >>= next) fun env => effect env >>= fun outcome => later outcome.1 outcome.2 := by
  intro context
  rw [run_bind, run_attempt]
  cases ends : (effect context.env).result with
  | error fault =>
    refine ⟨{ context with notes := context.notes ++ (effect context.env).notes }, ?_, ?_, .refl _⟩
    · rw [result_bind, ends]
      rfl
    · rw [notes_bind_error ends]
  | ok outcome =>
    obtain ⟨a, env⟩ := outcome
    obtain ⟨after, ran, noted, same⟩ := second a ⟨env, context.notes ++ (effect context.env).notes⟩
    refine ⟨after, ?_, ?_, (frames ends).trans same⟩
    · rw [result_bind, ends]
      exact ran
    · rw [noted, notes_bind_ok ends, Notes.append_assoc]

theorem Inside.still_bind {effect : Env → Attempt α} {next : α → Analysis β} {later : α → Env → Attempt β}
    (second : ∀ a, Inside (next a) (later a)) :
    Inside (Analysis.still effect >>= next) fun env => effect env >>= fun a => later a env := by
  have frames : ∀ {env a after}, result (effect env >>= fun a => Pure.pure (a, env)) = .ok (a, after) →
      env.SameOutside after := by
    intro env a after ends
    rw [result_bind] at ends
    cases first : (effect env).result with
    | error fault => simp [first, Except.bind] at ends
    | ok a =>
      obtain ⟨-, rfl⟩ : _ ∧ env = after := by simpa [first, Except.bind] using ends
      exact .refl env
  have steps := Inside.attempt_bind frames second
  exact steps.of_eq fun env => by rw [bind_assoc]; simp only [pure_bind]

theorem Inside.map {step : Analysis α} {effect : Env → Attempt α} (inside : Inside step effect) (f : α → β) :
    Inside (step >>= fun a => pure (f a)) fun env => effect env >>= fun a => pure (f a) := by
  intro context
  obtain ⟨after, ran, noted, same⟩ := inside context
  refine ⟨after, ?_, ?_, same⟩
  · rw [run_bind, ran, result_bind]
    cases (effect context.env).result <;> rfl
  · cases ends : (effect context.env).result with
    | ok a => rw [noted, notes_bind_ok ends, notes_pure, Notes.append_empty]
    | error fault => rw [noted, notes_bind_error ends]

/-- A scope of its own takes back whatever a step declares in it, also where the step ends in a fault. -/
theorem Inside.inScope {step : Analysis α} {effect : Env → Attempt α} (inside : Inside step effect) (kind : ScopeKind)
    (owner : ScopeOwner) :
    inScope kind owner step = Analysis.still fun env => Attempt.of (env.openScope kind owner) >>= effect := by
  apply ext_run
  rintro ⟨env, notes⟩
  rw [run_still]
  cases opened : env.openScope kind owner with
  | error fault =>
    have faults : (Attempt.of (.error fault : Except Fault Env)).result = .error fault := rfl
    rw [result_bind, notes_bind_error faults]
    simp [run, Analysis.inScope, opened, Except.bind]
  | ok inner =>
    have opens : (Attempt.of (.ok inner : Except Fault Env)).result = .ok inner := rfl
    obtain ⟨⟨after, more⟩, ran, noted, same⟩ := inside ⟨inner, notes⟩
    obtain rfl : more = notes ++ (effect inner).notes := noted
    rw [result_bind, notes_bind_ok opens]
    have closed : after.closeScope = env := same.closeScope opened
    have opening : (Analysis.inScope kind owner step).run ⟨env, notes⟩
        = ((step.run ⟨inner, notes⟩).1, { (step.run ⟨inner, notes⟩).2 with
          env := (step.run ⟨inner, notes⟩).2.env.closeScope }) := by
      simp only [run, Analysis.inScope, opened]
    rw [opening, ran, closed]
    rfl

theorem inScope_still (kind : ScopeKind) (owner : ScopeOwner) (step : Env → Attempt α) :
    inScope kind owner (still step) = still fun env => Attempt.of (env.openScope kind owner) >>= step :=
  (Inside.still step).inScope kind owner

end Analysis

open Analysis (still note inScope)

namespace VariableDecl

def walk (declaration : VariableDecl) : Analysis TypedVariable := do
  let bound ← note fun env => declaration.localBinding env
  Analysis.update fun env => env.declare bound.1
  return ⟨declaration.range, bound.1, bound.2⟩

def walkOptional : Option VariableDecl → Analysis (Option TypedVariable)
  | none => pure none
  | some declaration => do
    let typed ← walk declaration
    return some typed

end VariableDecl

namespace Stmt

mutual

/-- Checks a statement in a context, one scope after the other. -/
def walk : Stmt → Analysis TypedStmt
  | .block body => do
    let body ← walkBlock body
    return .block body
  | .branch chosen => do
    let chosen ← walkBranch chosen
    return .branch chosen
  | .whileLoop range condition body =>
    inScope .loop (.construct ⟨.whileLoop, range⟩) do
      let condition ← note fun env => condition.check env
      note fun _ => checkCondition ⟨.whileLoop, range⟩ "while" condition.facts
      let body ← walkBlock body
      return .whileLoop range condition body
  | .doWhile range condition body =>
    inScope .loop (.construct ⟨.doWhile, range⟩) do
      let body ← walkBlock body
      let condition ← note fun env => condition.check env
      note fun _ => checkCondition ⟨.doWhile, range⟩ "do while" condition.facts
      return .doWhile range condition body
  | .forLoop range init condition update body => do
    note fun _ => Noted.expect (update.all isUpdate) ⟨.forLoop, range⟩ .forUpdate
    inScope .loop (.construct ⟨.forLoop, range⟩) do
      let init ← VariableDecl.walkOptional init
      let condition ← note fun env => Expr.checkOptional env condition
      note fun _ => match condition with
        | some condition => checkCondition ⟨.forLoop, range⟩ "for" condition.facts
        | none => pure ()
      let update ← walkUpdate update
      let body ← walkBlock body
      return .forLoop range init condition update body
  | .switch range selector cases fallback => do
    let selector ← note fun env => selector.check env
    note fun _ => Noted.expect (selector.facts.ty.isInvalid || selector.facts.ty.isIntegral) ⟨.switch, range⟩
      (.selectorNotInteger selector.facts.ty)
    inScope .switch (.construct ⟨.switch, range⟩) do
      let found ← walkCases [] cases
      let fallback ← walkFallback fallback
      return .switch range found.2 selector found.1 fallback
  | .assignment range operator target value => do
    let target ← note fun env => target.check env
    let value ← note fun env => value.check env
    let operator ← note fun _ => checkAssignment ⟨.assignment, range⟩ operator target.facts value.facts
    return .assignment range operator target value
  | .step range operator target => do
    let target ← note fun env => target.check env
    let operator ← note fun _ => checkStep ⟨.step, range⟩ operator target.facts
    return .step range operator target
  | .variable declaration => do
    let declaration ← declaration.walk
    return .variable declaration
  | .returning range value => do
    let value ← note fun env => Expr.checkOptional env value
    let ty := (value.map fun e => e.facts.ty).getD .void
    note fun env => checkReturn env ⟨.returning, range⟩ ty
    return .returning range ty value
  | .breaking range => do
    note fun env => Noted.expect (env.isInside .loop || env.isInside .switch) ⟨.breaking, range⟩ .breakOutsideLoop
    return .breaking range
  | .continuing range => do
    note fun env => Noted.expect (env.isInside .loop) ⟨.continuing, range⟩ .continueOutsideLoop
    return .continuing range
  | .discarding range => do
    note fun env => Noted.expect (env.isInside .function) ⟨.discarding, range⟩ .discardOutsideFunction
    return .discarding range
  | .call range callRange callee generics arguments => do
    let called ← note fun env => (Expr.call callRange callee generics arguments).check env
    return .call range called
termination_by structural s => s

def walkBlock : Block → Analysis TypedBlock
  | .mk range statements =>
    inScope .inherit (.construct ⟨.block, range⟩) do
      let statements ← walkStmts statements
      return .mk range (.ofStatements statements) statements
termination_by structural b => b

def walkStmts : List Stmt → Analysis (List TypedStmt)
  | [] => pure []
  | s :: rest => do
    let s ← walk s
    let rest ← walkStmts rest
    return s :: rest
termination_by structural statements => statements

def walkBranch : Branch → Analysis TypedBranch
  | .mk range condition body otherwise => do
    let condition ← note fun env => condition.check env
    note fun _ => checkCondition ⟨.branch, range⟩ "if" condition.facts
    let body ← walkBlock body
    let otherwise ← walkOtherwise otherwise
    return .mk range condition body otherwise
termination_by structural b => b

def walkOtherwise : Otherwise → Analysis TypedOtherwise
  | .nothing => pure .nothing
  | .block body => do
    let body ← walkBlock body
    return .block body
  | .branch chosen => do
    let chosen ← walkBranch chosen
    return .branch chosen
termination_by structural o => o

def walkUpdate : Option Stmt → Analysis (Option TypedStmt)
  | none => pure none
  | some s => do
    let s ← walk s
    return some s
termination_by structural update => update

def walkCases (seen : List Int64) : List Case → Analysis (List TypedCase × List Int64)
  | [] => pure ([], seen)
  | .mk range values body :: rest => do
    let found ← note fun env => checkCaseValues env seen values
    let body ← walkBlock body
    let others ← walkCases found.2 rest
    return (.mk range found.1 body :: others.1, others.2)
termination_by structural cases => cases

def walkFallback : Option Block → Analysis (Option TypedBlock)
  | none => pure none
  | some body => do
    let body ← walkBlock body
    return some body
termination_by structural fallback => fallback

end

end Stmt

namespace VariableDecl

theorem walk_eq (declaration : VariableDecl) :
    declaration.walk = Analysis.attempt fun env => declaration.checkLocal env := by
  rw [walk, Analysis.note_eq_still]
  simp only [Analysis.update_eq_attempt, Analysis.attempt_map, Analysis.still_bind_attempt, bind_assoc, pure_bind]
  rfl

theorem walkOptional_eq (declaration : Option VariableDecl) :
    walkOptional declaration = Analysis.attempt fun env => checkOptional env declaration := by
  cases declaration with
  | none => exact Analysis.pure_eq_still none
  | some declaration =>
    rw [walkOptional, walk_eq, Analysis.attempt_map]
    rfl

theorem checkLocal_sameOutside {declaration : VariableDecl} {env after : Env} {typed : TypedVariable}
    (ends : (declaration.checkLocal env).result = .ok (typed, after)) : env.SameOutside after :=
  .of_declare (checkLocal_yields (yields_of_result ends)).2

theorem checkOptional_sameOutside {declaration : Option VariableDecl} {env after : Env} {typed : Option TypedVariable}
    (ends : (checkOptional env declaration).result = .ok (typed, after)) : env.SameOutside after := by
  have yields := yields_of_result ends
  cases declaration with
  | none =>
    simp only [checkOptional, yields_pure] at yields
    cases yields
    exact .refl env
  | some declaration =>
    simp only [checkOptional, yields_bind, yields_pure] at yields
    obtain ⟨⟨first, after⟩, declares, ⟨⟩⟩ := yields
    exact checkLocal_sameOutside declares.1

end VariableDecl

namespace Stmt

theorem check_sameOutside {s : Stmt} {env after : Env} {typed : TypedStmt}
    (ends : (check env s).result = .ok (typed, after)) : env.SameOutside after := by
  cases outcome_of_yields (yields_of_result ends) with
  | «variable» declares => exact VariableDecl.checkLocal_sameOutside declares.1
  | _ => exact .refl env

theorem checkUpdate_sameOutside {update : Option Stmt} {env after : Env} {typed : Option TypedStmt}
    (ends : (checkUpdate env update).result = .ok (typed, after)) : env.SameOutside after := by
  have yields := yields_of_result ends
  cases update with
  | none =>
    simp only [checkUpdate, yields_pure] at yields
    cases yields
    exact .refl env
  | some s =>
    simp only [checkUpdate, yields_bind, yields_pure] at yields
    obtain ⟨⟨first, after⟩, checked, ⟨⟩⟩ := yields
    exact check_sameOutside checked.1

open Analysis (Inside)

mutual

/-- The walk over a statement comes to the same as its check. -/
theorem walk_eq : (s : Stmt) → walk s = Analysis.attempt fun env => check env s
  | .block body => by
    rw [walk, walkBlock_eq body]
    simp only [Analysis.pure_eq_still, Analysis.still_bind]
    exact Analysis.still_eq_attempt fun env => by simp only [check, bind_assoc, pure_bind]
  | .branch chosen => by
    rw [walk, walkBranch_eq chosen]
    simp only [Analysis.pure_eq_still, Analysis.still_bind]
    exact Analysis.still_eq_attempt fun env => by simp only [check, bind_assoc, pure_bind]
  | .whileLoop range condition body => by
    rw [walk, walkBlock_eq body]
    simp only [Analysis.note_eq_still, Analysis.pure_eq_still, Analysis.still_bind, Analysis.inScope_still]
    exact Analysis.still_eq_attempt fun env => by simp only [check, openScope, bind_assoc, pure_bind]
  | .doWhile range condition body => by
    rw [walk, walkBlock_eq body]
    simp only [Analysis.note_eq_still, Analysis.pure_eq_still, Analysis.still_bind, Analysis.inScope_still]
    exact Analysis.still_eq_attempt fun env => by simp only [check, openScope, bind_assoc, pure_bind]
  | .forLoop range init condition update body => by
    rw [walk, VariableDecl.walkOptional_eq, walkUpdate_eq update, walkBlock_eq body]
    simp only [Analysis.note_eq_still, Analysis.pure_eq_still, Analysis.still_bind]
    -- The variable and the update may both declare something in the scope of the loop.
    rw [Inside.inScope (.attempt_bind VariableDecl.checkOptional_sameOutside fun _ => .still_bind fun _ =>
      .still_bind fun _ => .attempt_bind checkUpdate_sameOutside fun _ => .still _), Analysis.still_bind]
    refine Analysis.still_eq_attempt fun env => ?_
    simp only [check, openScope, bind_assoc, pure_bind]
    refine bind_congr fun _ => bind_congr fun _ => bind_congr fun _ => bind_congr fun test => ?_
    cases test with
    | none => rfl
    | some test => rfl
  | .switch range selector cases fallback => by
    rw [walk, walkCases_eq cases [], walkFallback_eq fallback]
    simp only [Analysis.note_eq_still, Analysis.pure_eq_still, Analysis.still_bind, Analysis.inScope_still]
    exact Analysis.still_eq_attempt fun env => by simp only [check, openScope, bind_assoc, pure_bind]
  | .variable declaration => by
    rw [walk, VariableDecl.walk_eq, Analysis.attempt_map]
    rfl
  | .assignment .. | .step .. | .returning .. | .breaking _ | .continuing _ | .discarding _ | .call .. => by
    rw [walk]
    simp only [Analysis.note_eq_still, Analysis.pure_eq_still, Analysis.still_bind]
    exact Analysis.still_eq_attempt fun env => by simp only [check, bind_assoc, pure_bind]
termination_by structural s => s

theorem walkBlock_eq : (body : Block) → walkBlock body = still fun env => checkBlock env body
  | .mk range statements => by
    rw [walkBlock, ((walkStmts_inside statements).map _).inScope]
    rfl
termination_by structural b => b

/-- Statements one after the other change nothing outside the innermost scope. -/
theorem walkStmts_inside : (statements : List Stmt) →
    Inside (walkStmts statements) fun env => checkStmts env statements
  | [] => by
    rw [walkStmts, Analysis.pure_eq_still]
    exact .still _
  | s :: rest => by
    rw [walkStmts, walk_eq s]
    exact .attempt_bind check_sameOutside fun _ => (walkStmts_inside rest).map _
termination_by structural statements => statements

theorem walkBranch_eq : (chosen : Branch) → walkBranch chosen = still fun env => checkBranch env chosen
  | .mk range condition body otherwise => by
    rw [walkBranch, walkBlock_eq body, walkOtherwise_eq otherwise]
    simp only [Analysis.note_eq_still, Analysis.pure_eq_still, Analysis.still_bind]
    rfl
termination_by structural b => b

theorem walkOtherwise_eq : (otherwise : Otherwise) →
    walkOtherwise otherwise = still fun env => checkOtherwise env otherwise
  | .nothing => Analysis.pure_eq_still _
  | .block body => by
    rw [walkOtherwise, walkBlock_eq body]
    simp only [Analysis.pure_eq_still, Analysis.still_bind]
    rfl
  | .branch chosen => by
    rw [walkOtherwise, walkBranch_eq chosen]
    simp only [Analysis.pure_eq_still, Analysis.still_bind]
    rfl
termination_by structural o => o

theorem walkUpdate_eq : (update : Option Stmt) →
    walkUpdate update = Analysis.attempt fun env => checkUpdate env update
  | none => Analysis.pure_eq_still _
  | some s => by
    rw [walkUpdate, walk_eq s, Analysis.attempt_map]
    rfl
termination_by structural update => update

theorem walkCases_eq : (cases : List Case) → (seen : List Int64) →
    walkCases seen cases = still fun env => checkCases env seen cases
  | [], _ => Analysis.pure_eq_still _
  | .mk range values body :: rest, seen => by
    rw [walkCases, walkBlock_eq body]
    simp only [walkCases_eq rest, Analysis.note_eq_still, Analysis.pure_eq_still, Analysis.still_bind]
    rfl
termination_by structural cases => cases

theorem walkFallback_eq : (fallback : Option Block) →
    walkFallback fallback = still fun env => checkFallback env fallback
  | none => Analysis.pure_eq_still _
  | some body => by
    rw [walkFallback, walkBlock_eq body]
    simp only [Analysis.pure_eq_still, Analysis.still_bind]
    rfl
termination_by structural fallback => fallback

end

end Stmt

end ShaderCheck
