import ShaderCheck.Proofs.Annotation
import ShaderCheck.Proofs.Declarations

/-!
What flows from place to place in a document fits where it goes. If nothing is reported about a document whose functions
each have one header that leaves no type open, then everything in it was checked, no value in it is invalid, and
initializers, assigned and returned values, conditions and arguments have types that cast into those of the places they
go to.
-/

namespace ShaderCheck

open Noted Attempt

/-- Everything in force is whole, and the symbols are those that the document ends up with. -/
structure Env.Settled (symbols : Symbols) (env : Env) : Prop where
  whole : env.Whole
  known : env.symbols = symbols

/-- What is in force in the body of a function, where a `return` belongs to the function. -/
structure Env.InBody (symbols : Symbols) (function : Function) (env : Env) : Prop extends env.Settled symbols where
  owner : ∃ node, env.owner? .function = some (.function node function)

namespace Env.InBody

variable {symbols : Symbols} {function : Function} {env after : Env}

theorem openScope (body : InBody symbols function env) {kind : ScopeKind} {node : NodeRef} (other : kind ≠ .function)
    (opened : env.openScope kind (.construct node) = .ok after) : InBody symbols function after := by
  obtain ⟨owner, owns⟩ := body.owner
  refine ⟨⟨body.whole.openScope opened, (symbols_of_openScope opened).trans body.known⟩, owner, ?_⟩
  rw [owner?_of_openScope opened, if_neg other]
  exact owns

theorem declare (body : InBody symbols function env) {binding : Binding} (type : binding.ty.Whole)
    (declared : env.declare binding = .ok after) : InBody symbols function after := by
  obtain ⟨owner, owns⟩ := body.owner
  refine ⟨⟨body.whole.declare type declared, (symbols_of_declare declared).trans body.known⟩, owner, ?_⟩
  rw [owner?_of_declare declared]
  exact owns

theorem lasts : Env.Lasts noIncident (InBody symbols function) where
  opens other body opened := body.openScope other opened
  declares body yields := by
    obtain ⟨bound, declared⟩ := VariableDecl.checkLocal_yields yields
    exact body.declare (bound.sound body.whole).type declared

end Env.InBody

def TypedExpr.Sound (symbols : Symbols) (e : TypedExpr) : Prop :=
  e.facts.ty.Whole ∧ ∀ range facts callee target arguments, e = .call range facts callee target arguments →
    Expr.Resolves symbols callee (arguments.map TypedExpr.facts) target

theorem Expr.Checked.sound {env : Env} (whole : env.Whole) {typed : TypedExpr}
    (checked : Expr.Checked noIncident env typed) : typed.Sound env.symbols := by
  obtain ⟨e, quiet, rfl⟩ := checked
  refine ⟨e.check_whole whole quiet, ?_⟩
  rintro range facts callee target arguments same
  cases e with
  | call _ callee generics arguments =>
    simp only [Expr.check, within_bind] at quiet
    have passed := Expr.checkAll_whole whole arguments quiet.1
    obtain ⟨-, resolves⟩ :=
      Expr.checkCall_whole whole _ callee generics (List.forall_mem_map.mpr passed) quiet.2.1
    cases same
    exact resolves
  | _ => cases same

/-- What a statement does by itself fits. A `return` has to give the expected type. -/
def TypedStmt.Sound (expected : Ty) : TypedStmt → Prop
  | .branch (.mk _ condition _ _) | .whileLoop _ condition _ | .doWhile _ condition _ => condition.facts.ty = .bool
  | .forLoop _ _ condition _ _ => ∀ test ∈ condition, test.facts.ty = .bool
  | .assignment _ .assign target value =>
    target.facts.storage = true ∧ target.facts.constness = .variable ∧ value.facts.ty.castsTo target.facts.ty = true
  | .variable declaration => declaration.Sound
  | .returning _ ty value => ty = (value.map fun e => e.facts.ty).getD .void ∧ ty.castsTo expected = true
  | _ => True

theorem TypedStmt.Sound.condition {expected : Ty} {s : TypedStmt} (sound : s.Sound expected) :
    ∀ condition ∈ s.condition?, condition.facts.ty = .bool := by
  cases s with
  | branch chosen =>
    obtain ⟨range, condition, body, otherwise⟩ := chosen
    rintro _ ⟨⟩
    exact sound
  | whileLoop | doWhile =>
    rintro _ ⟨⟩
    exact sound
  | forLoop => exact sound
  | _ => nofun

namespace Stmt

variable {symbols : Symbols} {function : Function} {expected : Ty}

theorem checkCondition_gives {condition : Facts} (whole : condition.ty.Whole) (node : NodeRef) (construct : String) :
    Gives (checkCondition node construct condition) fun _ => condition.ty = .bool := by
  intro quiet
  have fits := Gives.expect quiet
  rw [whole.isInvalid, Bool.false_or] at fits
  exact (Ty.castsTo_iff.mp fits).eq_bool

theorem checkTarget_gives {target : Facts} (whole : target.ty.Whole) (node : NodeRef) :
    Gives (checkTarget node target) fun writable =>
      writable = true ∧ target.storage = true ∧ target.constness = .variable := by
  unfold checkTarget
  rw [whole.isInvalid, if_neg Bool.false_ne_true]
  split
  case isTrue => exact .report
  case isFalse varies =>
    split
    case isTrue => exact .report
    case isFalse stored =>
      refine .pure ⟨rfl, by simpa using stored, ?_⟩
      cases kind : target.constness with
      | constant => exact (varies kind).elim
      | «variable» => rfl

theorem checkAssignment_gives {target value : Facts} (stored : target.ty.Whole) (given : value.ty.Whole)
    (node : NodeRef) (token : String) :
    Gives (checkAssignment node token target value) fun operator => operator = .assign →
      target.storage = true ∧ target.constness = .variable ∧ value.ty.castsTo target.ty = true := by
  refine .after fun operator => .bind (checkTarget_gives stored node) fun _ ⟨writable, storage, varies⟩ => ?_
  rw [writable, given.isInvalid]
  cases operator with
  | assign =>
    have plain : Gives (assignedType node .assign target value) (· = value.ty) := .pure rfl
    refine .bind plain fun _ same => ?_
    subst same
    refine .bind .expect fun _ fits => .pure fun _ => ⟨storage, varies, ?_⟩
    rw [given.isInvalid] at fits
    simpa using fits
  | arithmetic op => exact .after fun _ => .after fun _ => .pure nofun
  | bitwise op => exact .after fun _ => .after fun _ => .pure nofun

theorem checkReturn_gives {env : Env} (body : env.InBody symbols function)
    (returns : expectedReturn? function = some expected) (declared : expected.Whole) {ty : Ty} (given : ty.Whole)
    (node : NodeRef) : Gives (checkReturn env node ty) fun _ => ty.castsTo expected = true := by
  obtain ⟨owner, owns⟩ := body.owner
  unfold checkReturn
  rw [owns]
  dsimp only
  rw [returns]
  intro quiet
  have fits := Gives.expect quiet
  rw [given.isInvalid, declared.isInvalid] at fits
  simpa using fits

theorem Checked.sound (returns : expectedReturn? function = some expected) (declared : expected.Whole)
    {typed : TypedStmt} (checked : Checked noIncident (Env.InBody symbols function) typed) : typed.Sound expected := by
  obtain ⟨env, s, after, body, yields⟩ := checked
  have test : ∀ {env : Env} {e : Expr} {node : NodeRef} {construct : String}, env.InBody symbols function →
      Quiet (e.check env) → Quiet (checkCondition node construct (e.check env).value.facts) →
      (e.check env).value.facts.ty = .bool :=
    fun body tested decides => checkCondition_gives (Expr.check_whole body.whole _ tested) _ _ decides
  cases outcome_of_yields yields with
  | block | switch | step | breaking | continuing | discarding | call => trivial
  | branch tested decides => exact test body tested decides
  | whileLoop opened tested decides | doWhile opened tested decides =>
    exact test (Env.InBody.lasts.opens (by decide) body opened) tested decides
  | forLoop opened starts tested decides =>
    have inner := Env.InBody.lasts.opens (by decide) body opened
    obtain ⟨inner, -⟩ := checkOptional_nodes Env.InBody.lasts inner starts
    intro test found
    have whole := VariableDecl.checkOptional_whole inner.whole _ tested test found
    exact checkCondition_gives whole _ _ (decides test found)
  | @assignment range token target value operator stored given assigns fits =>
    cases operator with
    | assign =>
      have target := Expr.check_whole body.whole target stored
      have value := Expr.check_whole body.whole value given
      exact checkAssignment_gives target value _ token fits assigns
    | arithmetic | bitwise => trivial
  | «variable» declares =>
    obtain ⟨bound, -⟩ := VariableDecl.checkLocal_yields declares
    exact bound.sound body.whole
  | @returning range value ty given type fits =>
    have whole : ty.Whole := by
      have inner := VariableDecl.checkOptional_whole body.whole value given
      rw [type]
      cases found : (Expr.checkOptional env value).value with
      | none => exact .void
      | some e => exact inner e found
    exact ⟨type, checkReturn_gives body returns declared whole _ fits⟩

end Stmt

namespace FunctionDecl

variable {symbols : Symbols} {function : Function} {declaration : FunctionDecl}

/-- The body sees its parameters with the types that the header gives them. -/
theorem parameterType_whole (describes : function.Describes declaration) {position : Nat}
    (inside : position < declaration.bodyParameters.length) : (parameterType function position).Whole := by
  obtain ⟨written, header, source, single, inner⟩ := describes.headers
  rw [bodyParameters, source, ← inner.arity] at inside
  obtain ⟨ty, type, whole⟩ := inner.parameters _ (List.getElem_mem inside)
  have found : header.parameterType? position = some (.concrete ty) := by
    rw [Header.parameterType?, List.getElem?_eq_getElem inside, Option.map_some, type]
  simpa [parameterType, single, found] using whole

theorem entry_inBody {env inner : Env} (whole : env.Whole) (describes : function.Describes declaration)
    (entered : declaration.entry env function = .ok inner) : inner.InBody env.symbols function := by
  refine entry_keeps entered (fun opened => ?_) fun before inside declared =>
    inside.declare (parameterType_whole describes before) declared
  refine ⟨⟨whole.openScope opened, ?_⟩, ?_⟩
  · rw [Env.openScope_eq_ok opened]
  · rw [Env.openScope_eq_ok opened]
    exact ⟨_, rfl⟩

/-- The function that a name stands for is the one whose body is checked, with its parameters in force. -/
theorem check_inBody {env : Env} (whole : env.Whole) (declares : env.symbols.Declares declaration) {typed : TypedDecl}
    (yields : Yields noIncident (declaration.check env) typed) :
    ∃ function body inner, typed = .function declaration.range function body ∧ function.Describes declaration
      ∧ inner.InBody env.symbols function ∧ Yields noIncident (Stmt.checkBlock inner declaration.body) body := by
  obtain ⟨known, registered, describes, -⟩ := declares.registered?
  cases outcome_of_yields yields with
  | duplicate unregistered => cases registered.symm.trans unregistered
  | function other entered inside =>
    cases registered.symm.trans other
    exact ⟨known, _, _, rfl, describes, entry_inBody whole describes entered, inside⟩

end FunctionDecl

structure Function.SoundBody (symbols : Symbols) (function : Function) (body : TypedBlock) : Prop where
  parameters : ∀ header ∈ function.headers, ∀ parameter ∈ header.parameters, parameter.type.Given
  statements : ∃ header expected, function.headers = [header] ∧ header.returns = .concrete expected
    ∧ ∀ s ∈ (TypedStmt.block body).nodes, s.Sound expected
  expressions : ∀ s ∈ (TypedStmt.block body).nodes, ∀ e ∈ s.expressions, ∀ node ∈ e.nodes, node.Sound symbols

theorem FunctionDecl.check_sound {env : Env} {declaration : FunctionDecl} (whole : env.Whole)
    (declares : env.symbols.Declares declaration) {typed : TypedDecl}
    (yields : Yields noIncident (declaration.check env) typed) :
    ∃ function body, typed = .function declaration.range function body ∧ function.SoundBody env.symbols body := by
  obtain ⟨function, body, inner, rfl, describes, inside, checked⟩ := declaration.check_inBody whole declares yields
  obtain ⟨written, header, -, single, described⟩ := describes.headers
  obtain ⟨expected, result, declared⟩ := described.returns
  have returns : Stmt.expectedReturn? function = some expected := by
    rw [Stmt.expectedReturn?, single]
    dsimp only
    rw [result]
  have nodes := Stmt.checkBlock_nodes Env.InBody.lasts declaration.body inside checked
  refine ⟨function, body, rfl, ?_, ⟨header, expected, single, result, ?_⟩, ?_⟩
  · rw [single]
    exact List.forall_mem_singleton.mpr described.parameters
  · exact fun s member => (nodes s member).sound returns declared
  · intro s member e held node part
    obtain ⟨here, known, checked⟩ := (nodes s member).expressions Env.InBody.lasts e held
    rw [← known.known]
    exact (checked.nodes node part).sound known.whole

inductive Decl.Sound (symbols : Symbols) : Decl → TypedDecl → Prop where
  | function {declaration : FunctionDecl} {function : Function} {body : TypedBlock}
      (sound : function.SoundBody symbols body) :
      Sound symbols (.function declaration) (.function declaration.range function body)
  | variable {declaration : VariableDecl} {binding : Binding} {initializer : Option TypedExpr}
      (sound : TypedVariable.Sound ⟨declaration.range, binding, initializer⟩)
      (expressions : ∀ e ∈ initializer.toList, ∀ node ∈ e.nodes, node.Sound symbols) :
      Sound symbols (.variable declaration) (.variable ⟨declaration.range, binding, initializer⟩)
  | enumeration {declaration : EnumDecl} {enumeration : Enumeration} :
      Sound symbols (.enumeration declaration) (.enumeration declaration.range enumeration)
  | struct {declaration : StructDecl} {layout : Layout} :
      Sound symbols (.struct declaration) (.struct declaration.range layout)
  | alias {declaration : AliasDecl} {ty : Ty} : Sound symbols (.alias declaration) (.alias declaration.range ty)

namespace Decl

variable {symbols : Symbols} {env after : Env} {declaration : Decl} {typed : TypedDecl}

theorem check_type_sound (due : declaration.round = .enums ∨ declaration.round = .layouts) (whole : env.Whole)
    (yields : Yields noIncident (declaration.check env) (typed, after)) :
    after.Whole ∧ ∀ symbols, declaration.Sound symbols typed := by
  cases declaration with
  | enumeration declaration =>
    obtain ⟨kept, _, rfl⟩ := EnumDecl.check_whole whole yields
    exact ⟨kept, fun _ => .enumeration⟩
  | struct declaration =>
    simp only [check, yields_bind, yields_pure, yields_lift] at yields
    obtain ⟨_, ⟨rfl, quiet⟩, same⟩ := yields
    obtain ⟨kept, layout, described⟩ := declaration.check_whole whole quiet
    obtain ⟨rfl, rfl⟩ := Prod.mk.inj same
    rw [described]
    exact ⟨kept, fun _ => .struct⟩
  | «alias» declaration =>
    simp only [check, yields_bind, yields_pure, yields_lift] at yields
    obtain ⟨_, ⟨rfl, quiet⟩, same⟩ := yields
    obtain ⟨kept, ty, described⟩ := declaration.check_whole whole quiet
    obtain ⟨rfl, rfl⟩ := Prod.mk.inj same
    rw [described]
    exact ⟨kept, fun _ => .alias⟩
  | function | «variable» => simp [round] at due

theorem check_global_sound (due : declaration.round = .globals) (held : env.Settled symbols)
    (yields : Yields noIncident (declaration.check env) (typed, after)) :
    after.Settled symbols ∧ declaration.Sound symbols typed := by
  cases declaration with
  | «variable» declaration =>
    obtain ⟨whole, known⟩ := held
    obtain ⟨binding, initializer, rfl, bound, declared⟩ := VariableDecl.checkGlobal_yields yields
    have sound : TypedVariable.Sound ⟨declaration.range, binding, initializer⟩ := bound.sound whole
    refine ⟨⟨whole.declare sound.type declared, ?_⟩, .variable sound ?_⟩
    · obtain ⟨scope, outer, -, rfl⟩ := Env.declare_eq_ok declared
      exact known
    · intro e given node part
      rw [bound.value] at given
      rw [← known]
      exact ((Expr.checkOptional_checked bound.given e given).nodes node part).sound whole
  | _ => cases due

theorem check_body_sound (due : declaration.round = .bodies)
    (declares : ∀ function ∈ declaration.function?, symbols.Declares function)
    (held : env.Settled symbols)
    (yields : Yields noIncident (declaration.check env) (typed, after)) :
    after.Settled symbols ∧ declaration.Sound symbols typed := by
  cases declaration with
  | function declaration =>
    obtain ⟨whole, rfl⟩ := held
    simp only [check, yields_bind, yields_pure] at yields
    obtain ⟨_, checked, ⟨⟩⟩ := yields
    obtain ⟨function, body, rfl, sound⟩ := declaration.check_sound whole (declares declaration rfl) checked
    exact ⟨⟨whole, rfl⟩, .function sound⟩
  | _ => cases due

end Decl

namespace Document

theorem opened_whole (document : Document) : document.opened.Whole := by
  have builtin : (Builtin.register {}).Whole := Builtin.register_whole ⟨by simp, by simp, by simp⟩
  exact ⟨by simp [opened], builtin⟩

/-- Where nothing is reported, everything in force stays whole and what was checked fits. The names of the functions
stand for them from the signatures on. -/
theorem keepsUp_sound {document : Document} (plain : ∀ declaration ∈ document.functions, declaration.IsPlain) :
    document.KeepsUp noIncident Env.Whole
      (fun symbols env => env.Settled symbols ∧ ∀ declaration ∈ document.functions, symbols.Declares declaration)
      Decl.Sound where
  start := document.opened_whole
  types due whole yields := Decl.check_type_sound due whole yields
  signatures whole signed quiet := by
    obtain ⟨whole, -, declares⟩ := collectSignatures_declares plain whole quiet
    subst signed
    exact ⟨⟨whole, rfl⟩, declares⟩
  globals due held yields := by
    obtain ⟨settled, sound⟩ := Decl.check_global_sound due held.1 yields
    exact ⟨⟨settled, held.2⟩, sound⟩
  bodies member due held yields := by
    obtain ⟨settled, sound⟩ := Decl.check_body_sound due
      (fun function found => held.2 function (List.mem_filterMap.mpr ⟨_, member, found⟩)) held.1 yields
    exact ⟨⟨settled, held.2⟩, sound⟩

/-- Where nothing is reported, the name of every function stands for it, and every declaration has its facts, which
fit. -/
theorem effect_sound {document : Document} (plain : ∀ declaration ∈ document.functions, declaration.IsPlain)
    {typed : TypedDocument} {after : Env} (yields : Yields noIncident (document.effect {}) (typed, after)) :
    (∀ declaration ∈ document.functions, after.symbols.Declares declaration)
      ∧ List.Forall₂ (Decl.Sound after.symbols) document.declarations typed.declarations := by
  obtain ⟨_, ⟨⟨-, rfl⟩, declares⟩, sound⟩ := (keepsUp_sound plain).effect yields
  exact ⟨declares, sound⟩

/-- What flows through a checked document fits: all that is written was checked, nothing of it is invalid, and values
cast into the places they go to. -/
structure FlowSound (document : Document) (env : Env) (typed : TypedDocument) : Prop where
  /-- What has facts is what is written: the declarations, and in them the statements and expressions. -/
  written : typed.Annotates document
  /-- The name of every function stands for it, with the headers that are written, and its body has the facts that were
  found where its parameters are in force. -/
  functions : ∀ declaration ∈ document.functions, ∃ function inner body,
    declaration.registered? env.symbols = some function
      ∧ (HeaderDecl.collectAll env.symbols declaration.headers).value = function.headers
      ∧ declaration.entry env function = .ok inner ∧ (Stmt.checkBlock inner declaration.body).result = .ok body
      ∧ .function declaration.range function body ∈ typed.declarations
  /-- Every global has the binding and the initializer that were found where the globals before it are in force. In the
  end its binding and those of the globals behind it are there besides. -/
  globals : ∀ declaration ∈ document.globals, ∃ before later binding initializer,
    (declaration.globalBinding before).value = (binding, initializer) ∧ env = before.adding (later ++ [binding])
      ∧ .variable ⟨declaration.range, binding, initializer⟩ ∈ typed.declarations
  expressions : ∀ e ∈ typed.expressions, e.facts.ty ≠ .invalid
  bindings : ∀ v ∈ typed.declaredVariables, v.binding.ty ≠ .invalid
  parameters : ∀ range function body, TypedDecl.function range function body ∈ typed.declarations →
    ∀ header ∈ function.headers, ∀ parameter ∈ header.parameters, ∃ ty, parameter.type = .concrete ty ∧ ty ≠ .invalid
  initializers : ∀ v ∈ typed.declaredVariables, ∀ e ∈ v.initializer, e.facts.ty.castsTo v.binding.ty = true
  constants : ∀ v ∈ typed.declaredVariables, v.binding.constness = .constant →
    ∃ e ∈ v.initializer, e.facts.constness = .constant
  assignments : ∀ range target value, TypedStmt.assignment range .assign target value ∈ typed.statements →
    target.facts.storage = true ∧ target.facts.constness = .variable
      ∧ value.facts.ty.castsTo target.facts.ty = true
  returns : ∀ range function body, TypedDecl.function range function body ∈ typed.declarations →
    ∃ header expected, function.headers = [header] ∧ header.returns = .concrete expected
      ∧ ∀ place ty value, TypedStmt.returning place ty value ∈ (TypedStmt.block body).nodes →
        ty = (value.map fun e => e.facts.ty).getD .void ∧ ty.castsTo expected = true
  conditions : ∀ s ∈ typed.statements, ∀ condition ∈ s.condition?, condition.facts.ty = .bool
  calls : ∀ range facts callee target arguments,
    TypedExpr.call range facts callee target arguments ∈ typed.expressions →
    Expr.Resolves env.symbols callee (arguments.map TypedExpr.facts) target

section Assembly

variable {symbols : Symbols} {typed : TypedDocument}
  (sound : ∀ one ∈ typed.declarations, ∃ declaration : Decl, declaration.Sound symbols one)

include sound

theorem statements_sound : ∀ s ∈ typed.statements, ∃ expected, s.Sound expected := by
  intro s member
  obtain ⟨one, declared, inside⟩ := List.mem_flatMap.mp member
  obtain ⟨declaration, fits⟩ := sound one declared
  cases fits with
  | function body =>
    obtain ⟨header, expected, -, -, statements⟩ := body.statements
    exact ⟨expected, statements s inside⟩
  | «variable» | enumeration | struct | «alias» => cases inside

theorem globals_sound : ∀ v ∈ typed.declarations.filterMap TypedDecl.global?,
    v.Sound ∧ ∀ e ∈ v.initializer.toList, ∀ node ∈ e.nodes, node.Sound symbols := by
  intro v member
  obtain ⟨one, declared, found⟩ := List.mem_filterMap.mp member
  obtain ⟨declaration, fits⟩ := sound one declared
  cases fits with
  | «variable» itself expressions =>
    cases found
    exact ⟨itself, expressions⟩
  | function | enumeration | struct | «alias» => cases found

theorem declaredVariables_sound : ∀ v ∈ typed.declaredVariables, v.Sound := by
  refine TypedDocument.forall_declaredVariables (fun v member => (globals_sound sound v member).1) fun v member => ?_
  obtain ⟨expected, fits⟩ := statements_sound sound _ member
  exact fits

theorem expressions_sound : ∀ e ∈ typed.expressions, e.Sound symbols := by
  refine TypedDocument.forall_expressions (fun v member => (globals_sound sound v member).2) fun s member => ?_
  obtain ⟨one, declared, within⟩ := List.mem_flatMap.mp member
  obtain ⟨declaration, fits⟩ := sound one declared
  cases fits with
  | function body => exact body.expressions s within
  | «variable» | enumeration | struct | «alias» => cases within

theorem parameters_sound {range : Span} {function : Function} {body : TypedBlock}
    (declared : .function range function body ∈ typed.declarations) :
    ∀ header ∈ function.headers, ∀ parameter ∈ header.parameters,
      ∃ ty, parameter.type = .concrete ty ∧ ty ≠ .invalid := by
  intro header member parameter part
  obtain ⟨declaration, fits⟩ := sound _ declared
  cases fits with
  | function inner =>
    obtain ⟨ty, type, whole⟩ := inner.parameters header member parameter part
    exact ⟨ty, type, whole.ne_invalid⟩

theorem returns_sound {range : Span} {function : Function} {body : TypedBlock}
    (declared : .function range function body ∈ typed.declarations) :
    ∃ header expected, function.headers = [header] ∧ header.returns = .concrete expected
      ∧ ∀ place ty value, TypedStmt.returning place ty value ∈ (TypedStmt.block body).nodes →
        ty = (value.map fun e => e.facts.ty).getD .void ∧ ty.castsTo expected = true := by
  obtain ⟨declaration, fits⟩ := sound _ declared
  cases fits with
  | function inner =>
    obtain ⟨header, expected, single, type, statements⟩ := inner.statements
    exact ⟨header, expected, single, type, fun place ty value member => statements _ member⟩

end Assembly

/-- If the functions of a document each have one header that leaves no type open, and its check ends well and reports
nothing, then what flows through it fits. -/
theorem check_flowSound (document : Document) (plain : ∀ declaration ∈ document.functions, declaration.IsPlain)
    {typed : TypedDocument} {context : Context} (ran : document.check.run {} = (.ok typed, context))
    (quiet : context.incidents = []) : document.FlowSound context.env typed := by
  have yields : Yields noIncident (document.effect {}) (typed, context.env) :=
    document.check_does.yields ran (List.eq_nil_iff_forall_not_mem.mp quiet)
  obtain ⟨declares, fits⟩ := effect_sound plain yields
  have sound : ∀ one ∈ typed.declarations, ∃ declaration : Decl, declaration.Sound context.env.symbols one := by
    intro one declared
    obtain ⟨declaration, -, sound⟩ := exists_of_forall₂ fits.flip one declared
    exact ⟨declaration, sound⟩
  exact {
    written := effect_annotates yields
    functions := by
      intro declaration written
      obtain ⟨function, registered, -, headers⟩ := (declares declaration written).registered?
      obtain ⟨inner, body, entered, inside, declared⟩ := effect_entered yields written registered
      exact ⟨function, inner, body, registered, headers, entered, inside.1, declared⟩
    globals := fun _ written => effect_initialized yields written
    expressions := fun e member => (expressions_sound sound e member).1.ne_invalid
    bindings := fun v member => (declaredVariables_sound sound v member).type.ne_invalid
    parameters := fun _ _ _ declared => parameters_sound sound declared
    initializers := fun v member => (declaredVariables_sound sound v member).fits
    constants := fun v member => (declaredVariables_sound sound v member).constant
    assignments := by
      intro range target value member
      obtain ⟨expected, fits⟩ := statements_sound sound _ member
      exact fits
    returns := fun _ _ _ declared => returns_sound sound declared
    conditions := by
      intro s member
      obtain ⟨expected, fits⟩ := statements_sound sound s member
      exact fits.condition
    calls := fun range facts callee target arguments member =>
      (expressions_sound sound _ member).2 range facts callee target arguments rfl }

/-- A document in which values flow in every way: into a constant, a variable, an assignment, a result, the conditions
of a branch and of each loop, and the parameter of a call. -/
def flowing : Document :=
  let span (line : UInt32) : Span := ⟨⟨line, 1⟩, ⟨line, 9⟩⟩
  let bool : TypeRef := .mk (span 1) "bool" []
  let name (line : UInt32) (name : String) : Expr := .reference (span line) name
  let clear (line : UInt32) : Stmt := .assignment (span line) "=" (name line "y") (.literal (span line) "false")
  { range := span 1
    declarations := [
      .variable ⟨span 1, "const", "on", some bool, some (.literal (span 1) "true")⟩,
      .function ⟨span 2, "f", [⟨span 2, [], [⟨span 2, "x", bool⟩], bool⟩], .mk (span 2) [
        .variable ⟨span 3, "let", "y", none, some (name 3 "x")⟩,
        .branch (.mk (span 4) (name 4 "on") (.mk (span 4) [clear 4]) .nothing),
        .whileLoop (span 5) (name 5 "y") (.mk (span 5) [clear 5]),
        .doWhile (span 6) (name 6 "y") (.mk (span 6) [clear 6]),
        .forLoop (span 7) (some ⟨span 7, "let", "z", some bool, some (name 7 "y")⟩) (some (name 7 "z"))
          (some (clear 7)) (.mk (span 7) []),
        .returning (span 8) (some (.call (span 8) "any" [] [name 8 "y"]))]⟩] }

theorem flowing_flowSound :
    (∀ declaration ∈ flowing.functions, declaration.IsPlain)
    ∧ ∃ typed context, flowing.check.run {} = (.ok typed, context) ∧ context.incidents = []
      ∧ flowing.FlowSound context.env typed := by
  have plain : ∀ declaration ∈ flowing.functions, declaration.IsPlain :=
    List.forall_mem_singleton.mpr ⟨_, rfl, rfl⟩
  have quiet : (flowing.check.run {}).2.incidents = [] := by decide +kernel
  have ends : (flowing.check.run {}).1.toBool = true := by decide +kernel
  cases ran : flowing.check.run {} with
  | mk result context =>
    rw [ran] at quiet ends
    cases result with
    | error fault => cases ends
    | ok typed => exact ⟨plain, typed, context, rfl, quiet, check_flowSound flowing plain ran quiet⟩

end Document

end ShaderCheck
