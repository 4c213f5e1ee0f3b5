import ShaderCheck.Proofs.Nodes
import ShaderCheck.Proofs.Outcome

/-!
Every node of a checked tree was checked by itself. So what holds of each node, checked where it stands, holds all over
the tree: an invariant of what is in force is shown to last from one statement to the next once, and each sort of node
is looked at once.
-/

namespace ShaderCheck

open Noted Attempt

variable {allowed : Incident → Prop} {env : Env}

namespace Expr

/-- An expression that came out of a check, which reported only what is allowed. -/
def Checked (allowed : Incident → Prop) (env : Env) (typed : TypedExpr) : Prop :=
  ∃ e : Expr, Within allowed (e.check env) ∧ (e.check env).value = typed

mutual

/-- The parts of a checked expression were checked where it was. -/
theorem check_nodes : (e : Expr) → Within allowed (check env e) →
    ∀ node ∈ (check env e).value.nodes, Checked allowed env node
  | .binary family range left operator right, within => by
    have parts := within
    simp only [check, within_bind] at parts
    refine List.forall_mem_cons.mpr ⟨⟨_, within, rfl⟩, List.forall_mem_append.mpr ⟨?_, ?_⟩⟩
    · exact check_nodes left parts.1
    · exact check_nodes right parts.2.1
  | .unary range operator operand, within =>
    List.forall_mem_cons.mpr ⟨⟨_, within, rfl⟩, check_nodes operand ((within_bind _ _).mp within).1⟩
  | .addressOf range operand, within =>
    List.forall_mem_cons.mpr ⟨⟨_, within, rfl⟩, check_nodes operand ((within_bind _ _).mp within).1⟩
  | .dereference range operand, within =>
    List.forall_mem_cons.mpr ⟨⟨_, within, rfl⟩, check_nodes operand ((within_bind _ _).mp within).1⟩
  | .parenthesized range inner, within =>
    List.forall_mem_cons.mpr ⟨⟨_, within, rfl⟩, check_nodes inner ((within_bind _ _).mp within).1⟩
  | .reference range name, within => List.forall_mem_singleton.mpr ⟨_, within, rfl⟩
  | .literal range text, within => List.forall_mem_singleton.mpr ⟨_, within, rfl⟩
  | .call range callee generics arguments, within =>
    List.forall_mem_cons.mpr ⟨⟨_, within, rfl⟩, checkAll_nodes arguments ((within_bind _ _).mp within).1⟩
  | .index range value position, within => by
    have parts := within
    simp only [check, within_bind] at parts
    refine List.forall_mem_cons.mpr ⟨⟨_, within, rfl⟩, List.forall_mem_append.mpr ⟨?_, ?_⟩⟩
    · exact check_nodes value parts.1
    · exact check_nodes position parts.2.1
  | .member range value name, within =>
    List.forall_mem_cons.mpr ⟨⟨_, within, rfl⟩, check_nodes value ((within_bind _ _).mp within).1⟩
  | .conversion range target operand, within =>
    List.forall_mem_cons.mpr ⟨⟨_, within, rfl⟩, check_nodes operand ((within_bind _ _).mp within).1⟩
termination_by structural e => e

theorem checkAll_nodes : (es : List Expr) → Within allowed (checkAll env es) →
    ∀ node ∈ TypedExpr.nodesOfAll (checkAll env es).value, Checked allowed env node
  | [], _ => nofun
  | e :: rest, within => by
    simp only [checkAll, within_bind] at within
    exact List.forall_mem_append.mpr ⟨check_nodes e within.1, checkAll_nodes rest within.2.1⟩
termination_by structural es => es

end

theorem Checked.nodes {typed : TypedExpr} (checked : Checked allowed env typed) :
    ∀ node ∈ typed.nodes, Checked allowed env node := by
  obtain ⟨e, within, rfl⟩ := checked
  exact check_nodes e within

theorem checkOptional_checked {e : Option Expr} (within : Within allowed (checkOptional env e)) :
    ∀ typed ∈ (checkOptional env e).value.toList, Checked allowed env typed := by
  cases e with
  | none => nofun
  | some e =>
    simp only [checkOptional, within_bind] at within
    exact List.forall_mem_singleton.mpr ⟨e, within.1, rfl⟩

end Expr

namespace VariableDecl

/-- How a binding came by its type: from what is written and from its initializer, or from outside. -/
inductive Source (allowed : Incident → Prop) (node : NodeRef) (declared : Option Ty) (initializer : Option Facts)
    (binding : Binding) : Prop where
  | inside
      (constant : binding.constness = .constant →
        Within allowed (checkConstantInitializer node binding.name initializer))
      (fits : Within allowed (bindingType node binding.name binding.constness declared initializer))
      (type : binding.ty = (bindingType node binding.name binding.constness declared initializer).value)
  | outside (fixed : binding.constness = .variable)
      (fits : Within allowed (externalType node binding.name binding.space declared initializer))
      (type : binding.ty = (externalType node binding.name binding.space declared initializer).value)

/-- How the check of a variable went: what was checked, and what the variable was bound to. -/
structure Bound (allowed : Incident → Prop) (env : Env) (node : NodeRef) (declaration : VariableDecl)
    (binding : Binding) (initializer : Option TypedExpr) : Prop where
  given : Within allowed (Expr.checkOptional env declaration.initializer)
  value : initializer = (Expr.checkOptional env declaration.initializer).value
  kept : binding.value = keptValue binding.constness (initializer.map TypedExpr.facts)
  written : Within allowed (declaredType env declaration.type)
  source : Source allowed node (declaredType env declaration.type).value (initializer.map TypedExpr.facts) binding

theorem localBinding_bound {declaration : VariableDecl} (within : Within allowed (declaration.localBinding env)) :
    Bound allowed env ⟨.localVariable, declaration.range⟩ declaration (declaration.localBinding env).value.1
      (declaration.localBinding env).value.2 := by
  unfold localBinding at *
  split
  case h_1 constness known =>
    simp only [known, within_bind, value_bind, value_pure] at within ⊢
    obtain ⟨-, given, written, rest⟩ := within
    split at rest
    case h_1 =>
      simp only [within_bind] at rest
      exact ⟨given, rfl, rfl, written, .inside (fun _ => rest.1) rest.2.1 rfl⟩
    case h_2 =>
      simp only [within_bind] at rest
      exact ⟨given, rfl, rfl, written, .inside nofun rest.2.1 rfl⟩
    case h_3 =>
      simp only [within_bind] at rest
      exact ⟨given, rfl, rfl, written, .inside nofun rest.1 rfl⟩
  case h_2 unknown =>
    simp only [unknown, within_bind, value_bind, value_pure] at within ⊢
    obtain ⟨-, -, given, written, rest⟩ := within
    split at rest
    case h_1 never => cases never
    case h_2 =>
      simp only [within_bind] at rest
      exact ⟨given, rfl, rfl, written, .inside nofun rest.2.1 rfl⟩
    case h_3 =>
      simp only [within_bind] at rest
      exact ⟨given, rfl, rfl, written, .inside nofun rest.1 rfl⟩

/-- Only variables are filled from outside. -/
theorem globalKind?_external {keyword : String} {constness : Constness} {space : AddressSpace}
    (known : globalKind? keyword = some (constness, space)) (outside : isExternal space = true) :
    constness = .variable := by
  unfold globalKind? at known
  split at known
  case h_1 =>
    cases known
    cases outside
  all_goals cases known <;> rfl

theorem internalType_source {node : NodeRef} {declared : Option Ty} {initializer : Option Facts} {binding : Binding}
    (within : Within allowed (internalType node binding.name binding.constness declared initializer))
    (type : binding.ty = (internalType node binding.name binding.constness declared initializer).value) :
    Source allowed node declared initializer binding := by
  unfold internalType at *
  split at within
  case h_1 constant =>
    simp only [within_bind, constant, value_bind] at within type
    exact .inside (fun _ => within.1) (by simpa [constant] using within.2) (by simpa [constant] using type)
  case h_2 varies =>
    simp only [varies] at within type
    exact .inside (by simp [varies]) (by simpa [varies] using within) (by simpa [varies] using type)

theorem globalBinding_bound {declaration : VariableDecl} (within : Within allowed (declaration.globalBinding env)) :
    Bound allowed env ⟨.globalVariable, declaration.range⟩ declaration (declaration.globalBinding env).value.1
      (declaration.globalBinding env).value.2 := by
  unfold globalBinding at *
  split
  case h_1 kind known =>
    obtain ⟨constness, space⟩ := kind
    simp only [known, within_bind, value_bind, value_pure] at within ⊢
    obtain ⟨-, given, written, rest⟩ := within
    split
    case isTrue outside =>
      simp only [outside, if_true, within_bind] at rest
      exact ⟨given, rfl, rfl, written, .outside (globalKind?_external known outside) rest.1 rfl⟩
    case isFalse inside =>
      rw [if_neg inside, within_bind] at rest
      exact ⟨given, rfl, rfl, written, internalType_source rest.1 rfl⟩
  case h_2 unknown =>
    simp only [unknown, within_bind, value_bind, value_pure] at within ⊢
    obtain ⟨-, -, given, written, rest⟩ := within
    rw [if_neg (by decide), within_bind] at rest
    exact ⟨given, rfl, rfl, written, internalType_source rest.1 rfl⟩

variable {after : Env} {declaration : VariableDecl}

theorem checkLocal_yields {typed : TypedVariable}
    (yields : Yields allowed (declaration.checkLocal env) (typed, after)) :
    Bound allowed env ⟨.localVariable, declaration.range⟩ declaration typed.binding typed.initializer
      ∧ env.declare typed.binding = .ok after := by
  simp only [checkLocal, yields_bind, yields_pure, yields_lift, yields_of] at yields
  obtain ⟨_, ⟨rfl, within⟩, _, declared, ⟨⟩⟩ := yields
  exact ⟨localBinding_bound within, declared⟩

theorem checkGlobal_yields {outcome : TypedDecl}
    (yields : Yields allowed (declaration.checkGlobal env) (outcome, after)) :
    ∃ binding initializer, outcome = .variable ⟨declaration.range, binding, initializer⟩
      ∧ Bound allowed env ⟨.globalVariable, declaration.range⟩ declaration binding initializer
      ∧ env.declare binding = .ok after := by
  simp only [checkGlobal, yields_bind, yields_pure, yields_lift, yields_of] at yields
  obtain ⟨_, ⟨rfl, within⟩, _, declared, ⟨⟩⟩ := yields
  exact ⟨_, _, rfl, globalBinding_bound within, declared⟩

end VariableDecl

/-- Something that goes on to hold of what is in force from one statement to the next, and into the scopes that
statements open. -/
structure Env.Lasts (allowed : Incident → Prop) (invariant : Env → Prop) : Prop where
  opens : ∀ {env inner : Env} {kind : ScopeKind} {node : NodeRef}, kind ≠ .function → invariant env →
    env.openScope kind (.construct node) = .ok inner → invariant inner
  declares : ∀ {env after : Env} {declaration : VariableDecl} {typed : TypedVariable}, invariant env →
    Yields allowed (declaration.checkLocal env) (typed, after) → invariant after

/-- Something that goes on to hold as long as the variables that are declared are fine. -/
structure Env.LastsIf (allowed : Incident → Prop) (fine : TypedVariable → Prop) (invariant : Env → Prop) : Prop where
  opens : ∀ {env inner : Env} {kind : ScopeKind} {node : NodeRef}, kind ≠ .function → invariant env →
    env.openScope kind (.construct node) = .ok inner → invariant inner
  declares : ∀ {env after : Env} {declaration : VariableDecl} {typed : TypedVariable}, fine typed → invariant env →
    Yields allowed (declaration.checkLocal env) (typed, after) → invariant after

theorem Env.Lasts.always {invariant : Env → Prop} (lasts : Env.Lasts allowed invariant) :
    Env.LastsIf allowed (fun _ => True) invariant :=
  ⟨lasts.opens, fun _ => lasts.declares⟩

def TypedStmt.DeclaresFine (fine : TypedVariable → Prop) (s : TypedStmt) : Prop := ∀ v, s = .variable v → fine v

theorem TypedStmt.declaresFine_any (s : TypedStmt) : s.DeclaresFine fun _ => True := fun _ _ => trivial

namespace Stmt

/-- How the check of a statement went, if it did not end in a fault: what was checked where, and what came out. -/
inductive Outcome (allowed : Incident → Prop) (env : Env) : Stmt → TypedStmt → Env → Prop where
  | block {body : Block} {block : TypedBlock} (inside : Yields allowed (checkBlock env body) block) :
      Outcome allowed env (.block body) (.block block) env
  | branch {range : Span} {condition : Expr} {body : Block} {otherwise : Otherwise} {block : TypedBlock}
      {last : TypedOtherwise} (tested : Within allowed (condition.check env))
      (decides : Within allowed (checkCondition ⟨.branch, range⟩ "if" (condition.check env).value.facts))
      (inside : Yields allowed (checkBlock env body) block)
      (behind : Yields allowed (checkOtherwise env otherwise) last) :
      Outcome allowed env (.branch (.mk range condition body otherwise))
        (.branch (.mk range (condition.check env).value block last)) env
  | whileLoop {range : Span} {condition : Expr} {body : Block} {inner : Env} {block : TypedBlock}
      (opened : env.openScope .loop (.construct ⟨.whileLoop, range⟩) = .ok inner)
      (tested : Within allowed (condition.check inner))
      (decides : Within allowed (checkCondition ⟨.whileLoop, range⟩ "while" (condition.check inner).value.facts))
      (inside : Yields allowed (checkBlock inner body) block) :
      Outcome allowed env (.whileLoop range condition body) (.whileLoop range (condition.check inner).value block) env
  | doWhile {range : Span} {condition : Expr} {body : Block} {inner : Env} {block : TypedBlock}
      (opened : env.openScope .loop (.construct ⟨.doWhile, range⟩) = .ok inner)
      (tested : Within allowed (condition.check inner))
      (decides : Within allowed (checkCondition ⟨.doWhile, range⟩ "do while" (condition.check inner).value.facts))
      (inside : Yields allowed (checkBlock inner body) block) :
      Outcome allowed env (.doWhile range condition body) (.doWhile range (condition.check inner).value block) env
  | forLoop {range : Span} {init : Option VariableDecl} {condition : Option Expr} {update : Option Stmt} {body : Block}
      {inner started further : Env} {first : Option TypedVariable} {second : Option TypedStmt} {block : TypedBlock}
      (opened : env.openScope .loop (.construct ⟨.forLoop, range⟩) = .ok inner)
      (starts : Yields allowed (VariableDecl.checkOptional inner init) (first, started))
      (tested : Within allowed (Expr.checkOptional started condition))
      (decides : ∀ test ∈ (Expr.checkOptional started condition).value,
        Within allowed (checkCondition ⟨.forLoop, range⟩ "for" test.facts))
      (updates : Yields allowed (checkUpdate started update) (second, further))
      (inside : Yields allowed (checkBlock further body) block) :
      Outcome allowed env (.forLoop range init condition update body)
        (.forLoop range first (Expr.checkOptional started condition).value second block) env
  | switch {range : Span} {selector : Expr} {cases : List Case} {fallback : Option Block} {inner : Env}
      {list : List TypedCase} {values : List Int64} {last : Option TypedBlock}
      (selected : Within allowed (selector.check env))
      (opened : env.openScope .switch (.construct ⟨.switch, range⟩) = .ok inner)
      (inside : Yields allowed (checkCases inner [] cases) (list, values))
      (behind : Yields allowed (checkFallback inner fallback) last) :
      Outcome allowed env (.switch range selector cases fallback)
        (.switch range values (selector.check env).value list last) env
  | assignment {range : Span} {token : String} {target value : Expr} {operator : AssignmentOp}
      (stored : Within allowed (target.check env)) (given : Within allowed (value.check env))
      (assigns : (checkAssignment ⟨.assignment, range⟩ token (target.check env).value.facts
        (value.check env).value.facts).value = operator)
      (fits : Within allowed (checkAssignment ⟨.assignment, range⟩ token (target.check env).value.facts
        (value.check env).value.facts)) :
      Outcome allowed env (.assignment range token target value)
        (.assignment range operator (target.check env).value (value.check env).value) env
  | step {range : Span} {token : String} {target : Expr} {operator : StepOp}
      (stored : Within allowed (target.check env))
      (steps : (checkStep ⟨.step, range⟩ token (target.check env).value.facts).value = operator) :
      Outcome allowed env (.step range token target) (.step range operator (target.check env).value) env
  | variable {declaration : VariableDecl} {typed : TypedVariable} {after : Env}
      (declares : Yields allowed (declaration.checkLocal env) (typed, after)) :
      Outcome allowed env (.variable declaration) (.variable typed) after
  | returning {range : Span} {value : Option Expr} {ty : Ty} (given : Within allowed (Expr.checkOptional env value))
      (type : ty = ((Expr.checkOptional env value).value.map fun e => e.facts.ty).getD .void)
      (fits : Within allowed (checkReturn env ⟨.returning, range⟩ ty)) :
      Outcome allowed env (.returning range value) (.returning range ty (Expr.checkOptional env value).value) env
  | breaking {range : Span} : Outcome allowed env (.breaking range) (.breaking range) env
  | continuing {range : Span} : Outcome allowed env (.continuing range) (.continuing range) env
  | discarding {range : Span} : Outcome allowed env (.discarding range) (.discarding range) env
  | call {range callRange : Span} {callee : String} {generics : List TypeRef} {arguments : List Expr}
      (called : Within allowed ((Expr.call callRange callee generics arguments).check env)) :
      Outcome allowed env (.call range callRange callee generics arguments)
        (.call range ((Expr.call callRange callee generics arguments).check env).value) env

theorem outcome_of_yields {s : Stmt} {typed : TypedStmt} {after : Env}
    (yields : Yields allowed (check env s) (typed, after)) : Outcome allowed env s typed after := by
  cases s with
  | block body =>
    simp only [check, yields_bind, yields_pure] at yields
    obtain ⟨block, inside, ⟨⟩⟩ := yields
    exact .block inside
  | branch chosen =>
    obtain ⟨range, condition, body, otherwise⟩ := chosen
    simp only [check, checkBranch, yields_bind, yields_pure, yields_lift] at yields
    obtain ⟨_, ⟨_, ⟨rfl, tested⟩, _, ⟨-, decides⟩, block, inside, last, behind, rfl⟩, ⟨⟩⟩ := yields
    exact .branch tested decides inside behind
  | whileLoop range condition body =>
    simp only [check, openScope, yields_bind, yields_pure, yields_of, yields_lift] at yields
    obtain ⟨inner, opened, _, ⟨rfl, tested⟩, _, ⟨-, decides⟩, block, inside, ⟨⟩⟩ := yields
    exact .whileLoop opened tested decides inside
  | doWhile range condition body =>
    simp only [check, openScope, yields_bind, yields_pure, yields_of, yields_lift] at yields
    obtain ⟨inner, opened, block, inside, _, ⟨rfl, tested⟩, _, ⟨-, decides⟩, ⟨⟩⟩ := yields
    exact .doWhile opened tested decides inside
  | forLoop range init condition update body =>
    simp only [check, openScope, yields_bind, yields_of, yields_lift] at yields
    obtain ⟨_, -, inner, opened, ⟨first, started⟩, starts, _, ⟨rfl, tested⟩, rest⟩ := yields
    split at rest
    case h_1 test found =>
      simp only [yields_bind, yields_pure, yields_lift] at rest
      obtain ⟨_, ⟨-, decides⟩, ⟨second, further⟩, updates, block, inside, ⟨⟩⟩ := rest
      refine .forLoop opened starts tested ?_ updates inside
      rintro other same
      obtain rfl : test = other := by simpa [found] using same
      exact decides
    case h_2 absent =>
      simp only [yields_bind, yields_pure] at rest
      obtain ⟨⟨second, further⟩, updates, block, inside, ⟨⟩⟩ := rest
      refine .forLoop opened starts tested ?_ updates inside
      intro test found
      simp [absent] at found
  | switch range selector cases fallback =>
    simp only [check, openScope, yields_bind, yields_pure, yields_of, yields_lift] at yields
    obtain ⟨_, ⟨rfl, selected⟩, _, -, inner, opened, ⟨list, values⟩, inside, last, behind, ⟨⟩⟩ := yields
    exact .switch selected opened inside behind
  | assignment range token target value =>
    simp only [check, yields_bind, yields_pure, yields_lift] at yields
    obtain ⟨_, ⟨rfl, stored⟩, _, ⟨rfl, given⟩, _, ⟨assigns, fits⟩, ⟨⟩⟩ := yields
    exact .assignment stored given assigns fits
  | step range token target =>
    simp only [check, yields_bind, yields_pure, yields_lift] at yields
    obtain ⟨_, ⟨rfl, stored⟩, _, ⟨steps, -⟩, ⟨⟩⟩ := yields
    exact .step stored steps
  | «variable» declaration =>
    simp only [check, yields_bind, yields_pure] at yields
    obtain ⟨_, declares, ⟨⟩⟩ := yields
    exact .variable declares
  | returning range value =>
    simp only [check, yields_bind, yields_pure, yields_lift] at yields
    obtain ⟨_, ⟨rfl, given⟩, _, ⟨-, fits⟩, ⟨⟩⟩ := yields
    exact .returning given rfl fits
  | breaking range =>
    simp only [check, yields_bind, yields_pure] at yields
    obtain ⟨_, -, ⟨⟩⟩ := yields
    exact .breaking
  | continuing range =>
    simp only [check, yields_bind, yields_pure] at yields
    obtain ⟨_, -, ⟨⟩⟩ := yields
    exact .continuing
  | discarding range =>
    simp only [check, yields_bind, yields_pure] at yields
    obtain ⟨_, -, ⟨⟩⟩ := yields
    exact .discarding
  | call range callRange callee generics arguments =>
    simp only [check, yields_bind, yields_pure, yields_lift] at yields
    obtain ⟨_, ⟨rfl, called⟩, ⟨⟩⟩ := yields
    exact .call called

/-- A statement that came out of a check where the invariant held, which reported only what is allowed. -/
def Checked (allowed : Incident → Prop) (invariant : Env → Prop) (typed : TypedStmt) : Prop :=
  ∃ (env : Env) (s : Stmt) (after : Env), invariant env ∧ Yields allowed (s.check env) (typed, after)

variable {invariant : Env → Prop} {fine : TypedVariable → Prop}

theorem checkOptional_nodesIf (lasts : Env.LastsIf allowed fine invariant) {init : Option VariableDecl}
    {env after : Env} {typed : Option TypedVariable} (holds : invariant env)
    (yields : Yields allowed (VariableDecl.checkOptional env init) (typed, after))
    (fits : ∀ node ∈ (typed.map TypedStmt.variable).toList, node.DeclaresFine fine) :
    invariant after ∧ ∀ node ∈ (typed.map TypedStmt.variable).toList, Checked allowed invariant node := by
  cases init with
  | none =>
    simp only [VariableDecl.checkOptional, yields_pure] at yields
    cases yields
    exact ⟨holds, List.forall_mem_nil _⟩
  | some declaration =>
    simp only [VariableDecl.checkOptional, yields_bind, yields_pure] at yields
    obtain ⟨⟨first, after⟩, declares, ⟨⟩⟩ := yields
    have fit := List.forall_mem_singleton.mp fits first rfl
    refine ⟨lasts.declares fit holds declares,
      List.forall_mem_singleton.mpr ⟨env, .variable declaration, after, holds, ?_⟩⟩
    simp only [check, yields_bind, yields_pure]
    exact ⟨_, declares, rfl⟩

section Each

variable {good : TypedExpr → Prop} (each : ∀ {seen : List Int64} {e : Expr}, Within allowed (e.check env) →
  Within allowed (checkCaseValue seen (e.check env).value.node (e.check env).value.facts) → good (e.check env).value)

include each

/-- What holds of each value of a case as it is checked holds of all of them. -/
theorem checkCaseValues_each {seen : List Int64} {es : List Expr}
    (within : Within allowed (checkCaseValues env seen es)) :
    ∀ e ∈ (checkCaseValues env seen es).value.1, good e := by
  induction es generalizing seen with
  | nil => nofun
  | cons e rest ih =>
    simp only [checkCaseValues, within_bind] at within
    exact List.forall_mem_cons.mpr ⟨each within.1 within.2.1, ih within.2.2.1⟩

theorem checkCases_each {seen : List Int64} {cases : List Case} {outcome : List TypedCase × List Int64}
    (yields : Yields allowed (checkCases env seen cases) outcome) :
    ∀ e ∈ outcome.1.flatMap (fun | .mk _ values _ => values), good e := by
  induction cases generalizing seen outcome with
  | nil =>
    simp only [checkCases, yields_pure] at yields
    subst yields
    exact List.forall_mem_nil _
  | cons case rest ih =>
    obtain ⟨range, values, body⟩ := case
    simp only [checkCases, yields_bind, yields_pure, yields_lift] at yields
    obtain ⟨_, ⟨rfl, within⟩, block, -, _, others, rfl⟩ := yields
    rw [List.flatMap_cons]
    exact List.forall_mem_append.mpr ⟨checkCaseValues_each each within, ih others⟩

end Each

/-- The expressions of a checked statement were checked, each where the invariant holds. -/
theorem Checked.expressionsIf (lasts : Env.LastsIf allowed fine invariant) {typed : TypedStmt}
    (checked : Checked allowed invariant typed) (fits : ∀ node ∈ typed.nodes, node.DeclaresFine fine) :
    ∀ e ∈ typed.expressions, ∃ env, invariant env ∧ Expr.Checked allowed env e := by
  obtain ⟨env, s, after, holds, yields⟩ := checked
  have here : ∀ {es : List TypedExpr} {env : Env}, invariant env → (∀ e ∈ es, Expr.Checked allowed env e) →
      ∀ e ∈ es, ∃ env, invariant env ∧ Expr.Checked allowed env e :=
    fun holds all e member => ⟨_, holds, all e member⟩
  cases outcome_of_yields yields with
  | block | breaking | continuing | discarding => nofun
  | branch tested => exact here holds (List.forall_mem_singleton.mpr ⟨_, tested, rfl⟩)
  | whileLoop opened tested | doWhile opened tested =>
    have held := lasts.opens (by decide) holds opened
    exact here held (List.forall_mem_singleton.mpr ⟨_, tested, rfl⟩)
  | forLoop opened starts tested =>
    have early := (List.forall_mem_append.mp (List.forall_mem_cons.mp fits).2).1
    obtain ⟨held, -⟩ := checkOptional_nodesIf lasts (lasts.opens (by decide) holds opened) starts early
    exact here held (Expr.checkOptional_checked tested)
  | switch selected opened inside =>
    refine List.forall_mem_cons.mpr ⟨⟨_, holds, _, selected, rfl⟩, ?_⟩
    exact here (lasts.opens (by decide) holds opened) (checkCases_each (fun within _ => ⟨_, within, rfl⟩) inside)
  | assignment stored given =>
    exact here holds (List.forall_mem_cons.mpr ⟨⟨_, stored, rfl⟩, List.forall_mem_singleton.mpr ⟨_, given, rfl⟩⟩)
  | step stored => exact here holds (List.forall_mem_singleton.mpr ⟨_, stored, rfl⟩)
  | «variable» declares =>
    obtain ⟨bound, -⟩ := VariableDecl.checkLocal_yields declares
    refine here holds ?_
    rw [TypedStmt.expressions, bound.value]
    exact Expr.checkOptional_checked bound.given
  | returning given => exact here holds (Expr.checkOptional_checked given)
  | call called => exact here holds (List.forall_mem_singleton.mpr ⟨_, called, rfl⟩)

structure Stands (allowed : Incident → Prop) (invariant : Env → Prop) (typed : TypedStmt) : Prop where
  checked : Checked allowed invariant typed
  expressions : ∀ e ∈ typed.expressions, ∃ env, invariant env ∧ Expr.Checked allowed env e

theorem Checked.stands (lasts : Env.LastsIf allowed fine invariant) {typed : TypedStmt}
    (checked : Checked allowed invariant typed) (fits : ∀ node ∈ typed.nodes, node.DeclaresFine fine) :
    Stands allowed invariant typed :=
  ⟨checked, checked.expressionsIf lasts fits⟩

theorem stands_of_optional (lasts : Env.LastsIf allowed fine invariant) {init : Option TypedVariable}
    (checked : ∀ node ∈ (init.map TypedStmt.variable).toList, Checked allowed invariant node)
    (fits : ∀ node ∈ (init.map TypedStmt.variable).toList, node.DeclaresFine fine) :
    ∀ node ∈ (init.map TypedStmt.variable).toList, Stands allowed invariant node := by
  cases init with
  | none => nofun
  | some v => exact List.forall_mem_singleton.mpr ((checked _ List.mem_cons_self).stands lasts fits)

mutual

/-- The statements inside a checked one were checked where they stand, and the invariant holds behind it. -/
theorem check_nodesIf (lasts : Env.LastsIf allowed fine invariant) : (s : Stmt) → {env after : Env} →
    {typed : TypedStmt} → invariant env → Yields allowed (check env s) (typed, after) →
    (∀ node ∈ typed.nodes, node.DeclaresFine fine) →
    invariant after ∧ ∀ node ∈ typed.nodes, Stands allowed invariant node
  | .block body, _, _, _, holds, yields, fits => by
    cases outcome_of_yields yields with
    | block inside => exact ⟨holds, checkBlock_nodesIf lasts body holds inside fits⟩
  | .branch chosen, _, _, _, holds, yields, fits => by
    simp only [check, yields_bind, yields_pure] at yields
    obtain ⟨branch, inside, ⟨⟩⟩ := yields
    exact ⟨holds, checkBranch_nodesIf lasts chosen holds inside fits⟩
  | .whileLoop _ _ body, _, _, _, holds, yields, fits => by
    cases outcome_of_yields yields with
    | whileLoop opened _ _ inside =>
      have itself := Checked.stands lasts ⟨_, _, _, holds, yields⟩ fits
      have held := lasts.opens (by decide) holds opened
      have within := checkBlock_nodesIf lasts body held inside (List.forall_mem_cons.mp fits).2
      exact ⟨holds, List.forall_mem_cons.mpr ⟨itself, within⟩⟩
  | .doWhile _ _ body, _, _, _, holds, yields, fits => by
    cases outcome_of_yields yields with
    | doWhile opened _ _ inside =>
      have itself := Checked.stands lasts ⟨_, _, _, holds, yields⟩ fits
      have held := lasts.opens (by decide) holds opened
      have within := checkBlock_nodesIf lasts body held inside (List.forall_mem_cons.mp fits).2
      exact ⟨holds, List.forall_mem_cons.mpr ⟨itself, within⟩⟩
  | .forLoop _ init _ update body, _, _, _, holds, yields, fits => by
    cases outcome_of_yields yields with
    | forLoop opened starts _ _ updates inside =>
      have itself := Checked.stands lasts ⟨_, _, _, holds, yields⟩ fits
      obtain ⟨early, late⟩ := List.forall_mem_append.mp (List.forall_mem_cons.mp fits).2
      obtain ⟨middle, late⟩ := List.forall_mem_append.mp late
      obtain ⟨held, first⟩ := checkOptional_nodesIf lasts (lasts.opens (by decide) holds opened) starts early
      obtain ⟨held, second⟩ := checkUpdate_nodesIf lasts update held updates middle
      have third := checkBlock_nodesIf lasts body held inside late
      refine ⟨holds, List.forall_mem_cons.mpr ⟨itself, ?_⟩⟩
      exact List.forall_mem_append.mpr
        ⟨stands_of_optional lasts first early, List.forall_mem_append.mpr ⟨second, third⟩⟩
  | .switch _ _ cases fallback, _, _, _, holds, yields, fits => by
    cases outcome_of_yields yields with
    | switch _ opened inside behind =>
      have itself := Checked.stands lasts ⟨_, _, _, holds, yields⟩ fits
      obtain ⟨early, late⟩ := List.forall_mem_append.mp (List.forall_mem_cons.mp fits).2
      have held := lasts.opens (by decide) holds opened
      refine ⟨holds, List.forall_mem_cons.mpr ⟨itself, List.forall_mem_append.mpr ⟨?_, ?_⟩⟩⟩
      · exact checkCases_nodesIf lasts cases held inside early
      · exact checkFallback_nodesIf lasts fallback held behind late
  | .variable declaration, _, _, _, holds, yields, fits => by
    cases outcome_of_yields yields with
    | «variable» declares =>
      have itself := Checked.stands lasts ⟨_, _, _, holds, yields⟩ fits
      have fit := List.forall_mem_singleton.mp fits _ rfl
      exact ⟨lasts.declares fit holds declares, List.forall_mem_singleton.mpr itself⟩
  | .assignment .., _, _, _, holds, yields, fits | .step .., _, _, _, holds, yields, fits
  | .returning .., _, _, _, holds, yields, fits | .breaking _, _, _, _, holds, yields, fits
  | .continuing _, _, _, _, holds, yields, fits | .discarding _, _, _, _, holds, yields, fits
  | .call .., _, _, _, holds, yields, fits => by
    have itself := Checked.stands lasts ⟨_, _, _, holds, yields⟩ fits
    cases outcome_of_yields yields
    exact ⟨holds, List.forall_mem_singleton.mpr itself⟩
termination_by structural s => s

theorem checkBlock_nodesIf (lasts : Env.LastsIf allowed fine invariant) : (body : Block) → {env : Env} →
    {typed : TypedBlock} → invariant env → Yields allowed (checkBlock env body) typed →
    (∀ node ∈ TypedStmt.nodesOfBlock typed, node.DeclaresFine fine) →
    ∀ node ∈ TypedStmt.nodesOfBlock typed, Stands allowed invariant node
  | .mk range statements, env, typed, holds, yields, fits => by
    have itself : Yields allowed (check env (.block (.mk range statements))) (.block typed, env) := by
      simp only [check, yields_bind, yields_pure]
      exact ⟨typed, yields, rfl⟩
    simp only [checkBlock, openScope, yields_bind, yields_pure, yields_of] at yields
    obtain ⟨inner, opened, list, inside, rfl⟩ := yields
    have held := lasts.opens (by decide) holds opened
    have within := checkStmts_nodesIf lasts statements held inside (List.forall_mem_cons.mp fits).2
    exact List.forall_mem_cons.mpr ⟨Checked.stands lasts ⟨_, _, _, holds, itself⟩ fits, within⟩
termination_by structural b => b

theorem checkStmts_nodesIf (lasts : Env.LastsIf allowed fine invariant) : (statements : List Stmt) → {env : Env} →
    {typed : List TypedStmt} → invariant env → Yields allowed (checkStmts env statements) typed →
    (∀ node ∈ TypedStmt.nodesOfStmts typed, node.DeclaresFine fine) →
    ∀ node ∈ TypedStmt.nodesOfStmts typed, Stands allowed invariant node
  | [], _, _, _, yields, _ => by
    simp only [checkStmts, yields_pure] at yields
    subst yields
    nofun
  | s :: rest, _, _, holds, yields, fits => by
    simp only [checkStmts, yields_bind, yields_pure] at yields
    obtain ⟨⟨first, after⟩, one, others, tail, rfl⟩ := yields
    obtain ⟨early, late⟩ := List.forall_mem_append.mp fits
    obtain ⟨holds, head⟩ := check_nodesIf lasts s holds one early
    exact List.forall_mem_append.mpr ⟨head, checkStmts_nodesIf lasts rest holds tail late⟩
termination_by structural statements => statements

theorem checkBranch_nodesIf (lasts : Env.LastsIf allowed fine invariant) : (chosen : Branch) → {env : Env} →
    {typed : TypedBranch} → invariant env → Yields allowed (checkBranch env chosen) typed →
    (∀ node ∈ TypedStmt.nodesOfBranch typed, node.DeclaresFine fine) →
    ∀ node ∈ TypedStmt.nodesOfBranch typed, Stands allowed invariant node
  | .mk range condition body otherwise, env, typed, holds, yields, fits => by
    have itself : Yields allowed (check env (.branch (.mk range condition body otherwise))) (.branch typed, env) := by
      simp only [check, yields_bind, yields_pure]
      exact ⟨typed, yields, rfl⟩
    cases outcome_of_yields itself with
    | branch _ _ inside behind =>
      obtain ⟨early, late⟩ := List.forall_mem_append.mp (List.forall_mem_cons.mp fits).2
      refine List.forall_mem_cons.mpr
        ⟨Checked.stands lasts ⟨_, _, _, holds, itself⟩ fits, List.forall_mem_append.mpr ⟨?_, ?_⟩⟩
      · exact checkBlock_nodesIf lasts body holds inside early
      · exact checkOtherwise_nodesIf lasts otherwise holds behind late
termination_by structural b => b

theorem checkOtherwise_nodesIf (lasts : Env.LastsIf allowed fine invariant) : (otherwise : Otherwise) →
    {env : Env} → {typed : TypedOtherwise} → invariant env → Yields allowed (checkOtherwise env otherwise) typed →
    (∀ node ∈ TypedStmt.nodesOfOtherwise typed, node.DeclaresFine fine) →
    ∀ node ∈ TypedStmt.nodesOfOtherwise typed, Stands allowed invariant node
  | .nothing, _, _, _, yields, _ => by
    simp only [checkOtherwise, yields_pure] at yields
    subst yields
    nofun
  | .block body, _, _, holds, yields, fits => by
    simp only [checkOtherwise, yields_bind, yields_pure] at yields
    obtain ⟨block, inside, rfl⟩ := yields
    exact checkBlock_nodesIf lasts body holds inside fits
  | .branch chosen, _, _, holds, yields, fits => by
    simp only [checkOtherwise, yields_bind, yields_pure] at yields
    obtain ⟨branch, inside, rfl⟩ := yields
    exact checkBranch_nodesIf lasts chosen holds inside fits
termination_by structural o => o

theorem checkUpdate_nodesIf (lasts : Env.LastsIf allowed fine invariant) : (update : Option Stmt) → {env after : Env} →
    {typed : Option TypedStmt} → invariant env → Yields allowed (checkUpdate env update) (typed, after) →
    (∀ node ∈ TypedStmt.nodesOfUpdate typed, node.DeclaresFine fine) →
    invariant after ∧ ∀ node ∈ TypedStmt.nodesOfUpdate typed, Stands allowed invariant node
  | none, _, _, _, holds, yields, _ => by
    simp only [checkUpdate, yields_pure] at yields
    cases yields
    exact ⟨holds, nofun⟩
  | some s, _, _, _, holds, yields, fits => by
    simp only [checkUpdate, yields_bind, yields_pure] at yields
    obtain ⟨⟨first, after⟩, one, ⟨⟩⟩ := yields
    exact check_nodesIf lasts s holds one fits
termination_by structural update => update

theorem checkCases_nodesIf (lasts : Env.LastsIf allowed fine invariant) : (cases : List Case) → {env : Env} →
    {seen : List Int64} → {outcome : List TypedCase × List Int64} → invariant env →
    Yields allowed (checkCases env seen cases) outcome →
    (∀ node ∈ TypedStmt.nodesOfCases outcome.1, node.DeclaresFine fine) →
    ∀ node ∈ TypedStmt.nodesOfCases outcome.1, Stands allowed invariant node
  | [], _, _, _, _, yields, _ => by
    simp only [checkCases, yields_pure] at yields
    subst yields
    nofun
  | .mk _ _ body :: rest, _, _, _, holds, yields, fits => by
    simp only [checkCases, yields_bind, yields_pure, yields_lift] at yields
    obtain ⟨_, _, block, first, _, others, rfl⟩ := yields
    obtain ⟨early, late⟩ := List.forall_mem_append.mp fits
    exact List.forall_mem_append.mpr
      ⟨checkBlock_nodesIf lasts body holds first early, checkCases_nodesIf lasts rest holds others late⟩
termination_by structural cases => cases

theorem checkFallback_nodesIf (lasts : Env.LastsIf allowed fine invariant) : (fallback : Option Block) → {env : Env} →
    {typed : Option TypedBlock} → invariant env → Yields allowed (checkFallback env fallback) typed →
    (∀ node ∈ TypedStmt.nodesOfFallback typed, node.DeclaresFine fine) →
    ∀ node ∈ TypedStmt.nodesOfFallback typed, Stands allowed invariant node
  | none, _, _, _, yields, _ => by
    simp only [checkFallback, yields_pure] at yields
    subst yields
    nofun
  | some body, _, _, holds, yields, fits => by
    simp only [checkFallback, yields_bind, yields_pure] at yields
    obtain ⟨block, inside, rfl⟩ := yields
    exact checkBlock_nodesIf lasts body holds inside fits
termination_by structural fallback => fallback

end

theorem checkOptional_nodes (lasts : Env.Lasts allowed invariant) {init : Option VariableDecl} {env after : Env}
    {typed : Option TypedVariable} (holds : invariant env)
    (yields : Yields allowed (VariableDecl.checkOptional env init) (typed, after)) :
    invariant after ∧ ∀ node ∈ (typed.map TypedStmt.variable).toList, Checked allowed invariant node :=
  checkOptional_nodesIf lasts.always holds yields fun node _ => node.declaresFine_any

theorem checkBlock_nodes (lasts : Env.Lasts allowed invariant) (body : Block) {env : Env} {typed : TypedBlock}
    (holds : invariant env) (yields : Yields allowed (checkBlock env body) typed) :
    ∀ node ∈ TypedStmt.nodesOfBlock typed, Checked allowed invariant node :=
  fun node member =>
    (checkBlock_nodesIf lasts.always body holds yields (fun node _ => node.declaresFine_any) node member).checked

theorem Checked.expressions (lasts : Env.Lasts allowed invariant) {typed : TypedStmt}
    (checked : Checked allowed invariant typed) :
    ∀ e ∈ typed.expressions, ∃ env, invariant env ∧ Expr.Checked allowed env e :=
  checked.expressionsIf lasts.always fun node _ => node.declaresFine_any

end Stmt

namespace FunctionDecl

/-- What is in force at the start of a function's body: its parameters, on top of what is around it. -/
def entry (env : Env) (declaration : FunctionDecl) (function : Function) : Except Fault Env := do
  let inner ← env.openScope .function (.function ⟨.functionDeclaration, declaration.range⟩ function)
  declareParameters function inner 0 declaration.bodyParameters

inductive Outcome (allowed : Incident → Prop) (env : Env) (declaration : FunctionDecl) : TypedDecl → Prop where
  | duplicate (unregistered : declaration.registered? env.symbols = none) :
      Outcome allowed env declaration (.duplicate declaration.range declaration.body.range)
  | function {function : Function} {inner : Env} {body : TypedBlock}
      (registered : declaration.registered? env.symbols = some function)
      (entered : declaration.entry env function = .ok inner)
      (inside : Yields allowed (Stmt.checkBlock inner declaration.body) body) :
      Outcome allowed env declaration (.function declaration.range function body)

theorem outcome_of_yields {declaration : FunctionDecl} {typed : TypedDecl}
    (yields : Yields allowed (declaration.check env) typed) : Outcome allowed env declaration typed := by
  cases found : declaration.registered? env.symbols with
  | none =>
    simp only [check, found, yields_pure] at yields
    exact yields ▸ .duplicate found
  | some function =>
    simp only [check, found, yields_bind, yields_pure, yields_of] at yields
    obtain ⟨outer, opened, inner, declared, body, inside, rfl⟩ := yields
    have entered : declaration.entry env function = .ok inner := by
      rw [entry, opened]
      exact declared
    exact .function found entered inside

variable {function : Function} {invariant : Env → Prop}

/-- What each parameter keeps up, all of them do. -/
theorem declareParameters_keeps {parameters : List ParameterDecl} {position : Nat} {env after : Env}
    (one : ∀ {env after : Env} {name : String} {place : Nat}, place < position + parameters.length → invariant env →
      env.declare ⟨name, parameterType function place, .variable, .function, none⟩ = .ok after → invariant after)
    (start : invariant env) (declared : declareParameters function env position parameters = .ok after) :
    invariant after := by
  induction parameters generalizing position env with
  | nil =>
    cases declared
    exact start
  | cons parameter rest ih =>
    rw [List.length_cons] at one
    rw [declareParameters] at declared
    split at declared
    case isTrue => exact ih (fun before => one (by omega)) start declared
    case isFalse =>
      cases step : env.declare ⟨parameter.name, parameterType function position, .variable, .function, none⟩ with
      | error fault =>
        rw [step] at declared
        cases declared
      | ok inner =>
        rw [step] at declared
        exact ih (fun before => one (by omega)) (one (by omega) start step) declared

/-- What holds in the scope of a function, and goes on to hold as parameters are declared, holds at the start of its
body. -/
theorem entry_keeps {declaration : FunctionDecl} {env inner : Env}
    (entered : declaration.entry env function = .ok inner)
    (opens : ∀ {outer},
      env.openScope .function (.function ⟨.functionDeclaration, declaration.range⟩ function) = .ok outer →
      invariant outer)
    (one : ∀ {env after : Env} {name : String} {place : Nat}, place < declaration.bodyParameters.length →
      invariant env → env.declare ⟨name, parameterType function place, .variable, .function, none⟩ = .ok after →
      invariant after) :
    invariant inner := by
  unfold entry at entered
  cases opened : env.openScope .function (.function ⟨.functionDeclaration, declaration.range⟩ function) with
  | error fault =>
    rw [opened] at entered
    cases entered
  | ok outer =>
    rw [opened] at entered
    exact declareParameters_keeps (fun before => one (by omega)) (opens opened) entered

end FunctionDecl

end ShaderCheck
