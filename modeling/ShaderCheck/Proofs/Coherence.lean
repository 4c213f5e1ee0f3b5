import ShaderCheck.Proofs.Redeclaration
import ShaderCheck.Proofs.WellFormedTypes

/-!
How storage, constness and formats hang together. What is stored may change, so it has no known value, and it has a
format all the way down. A known value is constant. Only the bare name of an enum stands for the enum itself. Numbers
without a format are never part of something else.
-/

namespace ShaderCheck

open Noted Attempt

namespace Ty

inductive Mentions (kind : NumericKind) : Ty → Prop where
  | itself : Mentions kind (.numeric kind)
  | vector {dimension : Nat} {element : Ty} (inner : Mentions kind element) : Mentions kind (.vector dimension element)
  | matrix {rows columns : Nat} {element : Ty} (inner : Mentions kind element) :
      Mentions kind (.matrix rows columns element)
  | pointer {referent : Ty} {space : AddressSpace} (inner : Mentions kind referent) :
      Mentions kind (.pointer referent space)
  | enumeration {name : String} {underlying : Ty} (inner : Mentions kind underlying) :
      Mentions kind (.enumeration name underlying)
  | struct {name : String} {members : List (String × Ty)} {member : String × Ty} (listed : member ∈ members)
      (inner : Mentions kind member.2) : Mentions kind (.struct name members)

def Concrete (ty : Ty) : Prop := ∀ kind, ty.Mentions kind → kind.isConcrete = true

theorem concrete_enumeration (name : String) {underlying : Ty} (values : underlying = .i32 ∨ underlying = .string) :
    (Ty.enumeration name underlying).Concrete := by
  intro kind mentions
  cases mentions with
  | enumeration inner =>
    obtain rfl | rfl := values
    · cases inner
      rfl
    · cases inner

theorem Formed.concrete {symbols : Symbols} {ty : Ty} (formed : ty.Formed symbols) : ty.Concrete := by
  induction formed with
  | invalid | void | bool | string =>
    intro kind mentions
    cases mentions
  | numeric concrete =>
    intro kind mentions
    cases mentions
    exact concrete
  | vector _ _ _ ih =>
    intro kind mentions
    cases mentions with
    | vector inner => exact ih kind inner
  | matrix _ _ _ _ ih =>
    intro kind mentions
    cases mentions with
    | matrix inner => exact ih kind inner
  | pointer _ _ _ ih =>
    intro kind mentions
    cases mentions with
    | pointer inner => exact ih kind inner
  | enumeration _ values => exact concrete_enumeration _ values
  | struct _ _ ih =>
    intro kind mentions
    cases mentions with
    | struct listed inner => exact ih _ listed kind inner

end Ty

/-- What may change is not known, and has a format all the way down. -/
def Binding.Coherent (binding : Binding) : Prop :=
  binding.constness = .variable → binding.value = none ∧ binding.ty.Concrete

/-- What is stored may change, and what is known does not. -/
structure Facts.Coherent (facts : Facts) : Prop where
  stored : facts.storage = true → facts.constness = .variable
  valued : facts.value.isSome = true → facts.constness = .constant

namespace Facts

/-- The facts of a value, not of an enum by its name. -/
structure OfValue (facts : Facts) : Prop extends Facts.Coherent facts where
  value : facts.enumName = false

theorem OfValue.computed (ty : Ty) (constness : Constness) : (Facts.computed ty constness).OfValue :=
  ⟨⟨nofun, nofun⟩, rfl⟩

theorem OfValue.unresolved : Facts.unresolved.OfValue := .computed .invalid .variable

def ofEnum (enumeration : Enumeration) : Facts := { computed enumeration.ty .constant with enumName := true }

theorem ofEnum_coherent (enumeration : Enumeration) : (ofEnum enumeration).Coherent := ⟨nofun, nofun⟩

end Facts

namespace Expr

theorem foldUnary_valued {op : UnaryOp} {operand : Facts} (found : (foldUnary op operand).isSome = true) :
    operand.value.isSome = true := by
  unfold foldUnary at found
  split at found
  case h_1 known _ => rw [known, Option.isSome_some]
  case h_2 known _ => rw [known, Option.isSome_some]
  case h_3 => cases found

theorem checkUnary_ofValue (node : NodeRef) (token : String) {operand : Facts} (coherent : operand.Coherent) :
    (checkUnary node token operand).value.2.OfValue :=
  ⟨⟨nofun, fun valued => coherent.valued (foldUnary_valued valued)⟩, rfl⟩

theorem checkBinary_ofValue (family : OperatorFamily) (node : NodeRef) (token : String) (left right : Facts) :
    (checkBinary family node token left right).value.2.OfValue := by
  cases family <;> exact .computed _ _

theorem checkAddressOf_ofValue (node : NodeRef) (operand : Facts) : (checkAddressOf node operand).value.OfValue := by
  unfold checkAddressOf
  split
  · exact .unresolved
  · split
    · exact .unresolved
    · split
      · exact .unresolved
      · exact .computed _ _

theorem checkDereference_ofValue (node : NodeRef) (operand : Facts) :
    (checkDereference node operand).value.OfValue := by
  unfold checkDereference
  split
  case h_1 => exact ⟨⟨fun _ => rfl, nofun⟩, rfl⟩
  case h_2 | h_3 => exact .unresolved

theorem checkLiteral_ofValue (node : NodeRef) (text : String) : (checkLiteral node text).value.OfValue := by
  unfold checkLiteral
  split
  case h_1 => exact ⟨⟨nofun, fun _ => rfl⟩, rfl⟩
  case h_2 => exact .computed _ _

theorem checkCallOf_ofValue (function : Function) (node : NodeRef) (callee : String) (explicit : List Ty)
    (arguments : List Facts) : (checkCallOf function node callee explicit arguments).value.2.OfValue := by
  unfold checkCallOf
  split
  case isTrue => exact .unresolved
  case isFalse =>
    split
    case h_1 => exact .unresolved
    case h_2 => split <;> exact .computed _ _

theorem checkCall_ofValue (env : Env) (node : NodeRef) (callee : String) (generics : List TypeRef)
    (arguments : List Facts) : (checkCall env node callee generics arguments).value.2.OfValue := by
  unfold checkCall
  rw [value_bind]
  split
  case h_1 => exact .unresolved
  case h_2 => exact checkCallOf_ofValue ..

theorem checkIndex_ofValue (node : NodeRef) {value : Facts} (index : Facts) (coherent : value.Coherent) :
    (checkIndex node value index).value.OfValue := by
  have stored (held : value.storage = true) : value.constness.meet index.constness = .variable := by
    rw [coherent.stored held]
    rfl
  unfold checkIndex
  rw [value_bind]
  split
  case h_1 | h_4 => exact .unresolved
  case h_2 | h_3 => exact ⟨⟨stored, nofun⟩, rfl⟩

theorem checkMember_ofValue (env : Env) (node : NodeRef) {value : Facts} (member : String) (coherent : value.Coherent) :
    (checkMember env node value member).value.OfValue := by
  unfold checkMember
  split
  case h_1 | h_5 => exact .unresolved
  case h_2 =>
    split
    case h_1 => exact ⟨⟨coherent.stored, nofun⟩, rfl⟩
    case h_2 => exact .unresolved
  case h_3 =>
    split
    case h_1 => exact ⟨⟨coherent.stored, nofun⟩, rfl⟩
    case h_2 => exact .computed _ _
    case h_3 => exact .unresolved
  case h_4 =>
    split
    · split
      · exact ⟨⟨nofun, fun _ => rfl⟩, rfl⟩
      · exact .unresolved
    · exact .unresolved

end Expr

/-- The name that an expression consists of, in however many parentheses. -/
def TypedExpr.name? : TypedExpr → Option String
  | .reference _ _ name => some name
  | .parenthesized _ _ inner => inner.name?
  | _ => none

/-- The facts of an expression hang together. Those of an enum belong to the one that its name stands for. -/
structure TypedExpr.Coherent (symbols : Symbols) (typed : TypedExpr) : Prop where
  facts : typed.facts.Coherent
  named : typed.facts.enumName = true → ∃ enumeration, typed.name? = some enumeration.name
    ∧ symbols.enumeration? enumeration.name = some enumeration ∧ typed.facts = .ofEnum enumeration

theorem TypedExpr.Coherent.ofValue {symbols : Symbols} {typed : TypedExpr} (facts : typed.facts.OfValue) :
    typed.Coherent symbols where
  facts := facts.toCoherent
  named enumName := by
    rw [facts.value] at enumName
    cases enumName

namespace Expr

variable {env : Env}

theorem checkReference_coherent (binds : env.Binds Binding.Coherent) (range : Span) (node : NodeRef) (name : String) :
    (TypedExpr.reference range (checkReference env node name).value name).Coherent env.symbols := by
  unfold checkReference
  split
  case h_1 binding found =>
    obtain ⟨scope, member, held⟩ := Env.mem_of_lookup? found
    have coherent := binds scope member binding held
    refine .ofValue ⟨⟨fun stored => of_decide_eq_true stored, fun valued => ?_⟩, rfl⟩
    change binding.value.isSome = true at valued
    change binding.constness = .constant
    cases varies : binding.constness with
    | constant => rfl
    | «variable» =>
      rw [(coherent varies).1] at valued
      cases valued
  case h_2 =>
    split
    case h_1 enumeration found =>
      obtain rfl : enumeration.name = name := by simpa using List.find?_some found
      exact ⟨Facts.ofEnum_coherent enumeration, fun _ => ⟨enumeration, rfl, found, rfl⟩⟩
    case h_2 => exact .ofValue .unresolved

/-- Where the bindings are coherent, so is every expression. -/
theorem check_coherent (binds : env.Binds Binding.Coherent) (e : Expr) :
    (check env e).value.Coherent env.symbols := by
  cases e with
  | binary family _ _ operator _ => exact .ofValue (checkBinary_ofValue family _ operator _ _)
  | unary _ operator operand => exact .ofValue (checkUnary_ofValue _ operator (check_coherent binds operand).facts)
  | addressOf => exact .ofValue (checkAddressOf_ofValue _ _)
  | dereference => exact .ofValue (checkDereference_ofValue _ _)
  | parenthesized _ inner => exact ⟨(check_coherent binds inner).facts, (check_coherent binds inner).named⟩
  | reference range name => exact checkReference_coherent binds range _ name
  | literal _ text => exact .ofValue (checkLiteral_ofValue _ text)
  | call _ callee generics _ => exact .ofValue (checkCall_ofValue env _ callee generics _)
  | index _ value _ => exact .ofValue (checkIndex_ofValue _ _ (check_coherent binds value).facts)
  | member _ value name => exact .ofValue (checkMember_ofValue env _ name (check_coherent binds value).facts)
  | conversion => exact .ofValue (.computed _ _)
termination_by structural e

theorem Checked.coherent {allowed : Incident → Prop} {typed : TypedExpr} (checked : Checked allowed env typed)
    (binds : env.Binds Binding.Coherent) : typed.Coherent env.symbols := by
  obtain ⟨e, -, rfl⟩ := checked
  exact check_coherent binds e

end Expr

theorem VariableDecl.Bound.coherent {allowed : Incident → Prop} {env : Env} {node : NodeRef}
    {declaration : VariableDecl} {binding : Binding} {initializer : Option TypedExpr} (formed : env.Formed)
    (bound : Bound allowed env node declaration binding initializer) : binding.Coherent := by
  intro varies
  have unknown : binding.value = none := by
    rw [bound.kept, varies]
    rfl
  exact ⟨unknown, ((bound.formed formed).stored varies).concrete⟩

structure Env.CoherentWith (symbols : Symbols) (env : Env) : Prop where
  formed : env.FormedWith symbols
  binds : env.Binds Binding.Coherent

namespace Env.CoherentWith

variable {symbols : Symbols} {env after : Env}

theorem openScope (held : env.CoherentWith symbols) {kind : ScopeKind} {owner : ScopeOwner}
    (opened : env.openScope kind owner = .ok after) : after.CoherentWith symbols :=
  ⟨held.formed.openScope opened, held.binds.openScope opened⟩

theorem lasts {allowed : Incident → Prop} : Env.Lasts allowed (CoherentWith symbols) where
  opens _ held opened := held.openScope opened
  declares held yields := by
    obtain ⟨bound, declared⟩ := VariableDecl.checkLocal_yields yields
    have coherent := bound.coherent held.formed.formed
    exact ⟨Env.FormedWith.lasts.declares held.formed yields, held.binds.declare coherent declared⟩

/-- So does what a body starts with. -/
theorem entry (held : env.CoherentWith symbols) {declaration : FunctionDecl} {function : Function} {inner : Env}
    (registered : declaration.registered? env.symbols = some function)
    (entered : declaration.entry env function = .ok inner) : inner.CoherentWith symbols := by
  have listed : function ∈ env.symbols.functions :=
    List.mem_of_find?_eq_some (Option.filter_eq_some_iff.mp registered).1
  have headers : ∀ header ∈ function.headers, header.Formed symbols :=
    held.formed.known ▸ held.formed.formed.symbols.functions function listed
  refine ⟨FunctionDecl.entry_formed held.formed headers entered, ?_⟩
  refine FunctionDecl.entry_keeps entered (fun opened => held.binds.openScope opened)
    fun {_ _ _ place} _ binds declared => ?_
  have concrete := (FunctionDecl.parameterType_formed headers place).concrete
  exact binds.declare (fun _ => ⟨rfl, concrete⟩) declared

end Env.CoherentWith

structure TypedStmt.Coherent (symbols : Symbols) (s : TypedStmt) : Prop where
  expressions : ∀ e ∈ s.expressions, ∀ node ∈ e.nodes, node.Coherent symbols
  declares : ∀ v, s = .variable v → v.binding.Coherent

theorem Stmt.Checked.coherent {allowed : Incident → Prop} {symbols : Symbols} {typed : TypedStmt}
    (checked : Stmt.Checked allowed (Env.CoherentWith symbols) typed) : typed.Coherent symbols where
  expressions e held node part := by
    obtain ⟨env, known, inside⟩ := checked.expressions Env.CoherentWith.lasts e held
    rw [← known.formed.known]
    exact (inside.nodes node part).coherent known.binds
  declares := by
    rintro v rfl
    obtain ⟨env, s, after, held, yields⟩ := checked
    cases Stmt.outcome_of_yields yields with
    | «variable» declares =>
      obtain ⟨bound, -⟩ := VariableDecl.checkLocal_yields declares
      exact bound.coherent held.formed.formed

structure TypedDecl.Coherent (symbols : Symbols) (one : TypedDecl) : Prop where
  statements : ∀ s ∈ one.statements, s.Coherent symbols
  global : ∀ v, one.global? = some v →
    v.binding.Coherent ∧ ∀ e ∈ v.initializer.toList, ∀ node ∈ e.nodes, node.Coherent symbols

namespace Decl

variable {allowed : Incident → Prop} {symbols : Symbols} {env after : Env} {declaration : Decl} {typed : TypedDecl}

theorem check_type_coherent (due : declaration.round = .enums ∨ declaration.round = .layouts) (formed : env.Formed)
    (binds : env.Binds Binding.Coherent) (yields : Yields allowed (declaration.check env) (typed, after)) :
    (after.Formed ∧ after.Binds Binding.Coherent) ∧ ∀ symbols, typed.Coherent symbols := by
  obtain ⟨kept, statements, global⟩ := check_type_keeps due yields
  have inert (symbols : Symbols) : typed.Coherent symbols :=
    ⟨by simp [statements], by simp [global]⟩
  refine ⟨⟨(check_type_formed due formed yields).1, ?_⟩, inert⟩
  rw [Env.Binds, kept.scopes]
  exact binds

theorem check_global_coherent (due : declaration.round = .globals) (held : env.CoherentWith symbols)
    (yields : Yields allowed (declaration.check env) (typed, after)) :
    after.CoherentWith symbols ∧ typed.Coherent symbols := by
  have formed := (check_global_formed due held.formed yields).1
  cases declaration with
  | «variable» declaration =>
    obtain ⟨binding, initializer, rfl, bound, declared⟩ := VariableDecl.checkGlobal_yields yields
    have coherent := bound.coherent held.formed.formed
    refine ⟨⟨formed, held.binds.declare coherent declared⟩, nofun, ?_⟩
    rintro _ ⟨⟩
    refine ⟨coherent, fun e given node part => ?_⟩
    change e ∈ initializer.toList at given
    rw [bound.value] at given
    rw [← held.formed.known]
    exact ((Expr.checkOptional_checked bound.given e given).nodes node part).coherent held.binds
  | _ => cases due

theorem check_body_coherent (due : declaration.round = .bodies) (held : env.CoherentWith symbols)
    (yields : Yields allowed (declaration.check env) (typed, after)) :
    after.CoherentWith symbols ∧ typed.Coherent symbols := by
  cases declaration with
  | function declaration =>
    simp only [check, yields_bind, yields_pure] at yields
    obtain ⟨_, checked, ⟨⟩⟩ := yields
    refine ⟨held, ?_⟩
    cases FunctionDecl.outcome_of_yields checked with
    | duplicate => constructor <;> rintro _ ⟨⟩
    | function registered entered inside =>
      have nodes := Stmt.checkBlock_nodes Env.CoherentWith.lasts declaration.body (held.entry registered entered) inside
      exact ⟨fun s member => (nodes s member).coherent, by rintro _ ⟨⟩⟩
  | _ => cases due

end Decl

namespace Document

/-- From declaration to declaration, everything in force and everything that was checked hangs together. -/
theorem keepsUp_coherent (document : Document) (allowed : Incident → Prop) :
    document.KeepsUp allowed (fun env => env.Formed ∧ env.Binds Binding.Coherent) Env.CoherentWith
      fun symbols _ typed => typed.Coherent symbols where
  start := ⟨document.opened_formed, by simp [opened, Env.Binds]⟩
  types due held yields := Decl.check_type_coherent due held.1 held.2 yields
  signatures held signed _ := by
    subst signed
    refine ⟨⟨collectSignatures_formed held.1 document.declarations, rfl⟩, ?_⟩
    rw [Env.Binds, (collectSignatures_adds _ document.declarations).2.1]
    exact held.2
  globals due held yields := Decl.check_global_coherent due held yields
  bodies _ due held yields := Decl.check_body_coherent due held yields

theorem effect_coherent {document : Document} {allowed : Incident → Prop} {typed : TypedDocument} {after : Env}
    (yields : Yields allowed (document.effect {}) (typed, after)) :
    after.CoherentWith after.symbols ∧ ∀ one ∈ typed.declarations, one.Coherent after.symbols := by
  obtain ⟨symbols, held, coherent⟩ := (document.keepsUp_coherent allowed).effect yields
  obtain rfl := held.formed.known
  refine ⟨held, fun one declared => ?_⟩
  obtain ⟨_, -, fine⟩ := exists_of_forall₂ coherent.flip one declared
  exact fine

end Document

namespace TypedDocument

variable {document : TypedDocument} {symbols : Symbols}
  (coherent : ∀ one ∈ document.declarations, one.Coherent symbols)

include coherent

theorem statements_coherent : ∀ s ∈ document.statements, s.Coherent symbols := by
  intro s member
  obtain ⟨one, declared, inside⟩ := List.mem_flatMap.mp member
  exact (coherent one declared).statements s inside

theorem globals_coherent : ∀ v ∈ document.declarations.filterMap TypedDecl.global?,
    v.binding.Coherent ∧ ∀ e ∈ v.initializer.toList, ∀ node ∈ e.nodes, node.Coherent symbols := by
  intro v member
  obtain ⟨one, declared, found⟩ := List.mem_filterMap.mp member
  exact (coherent one declared).global v found

theorem declaredVariables_coherent : ∀ v ∈ document.declaredVariables, v.binding.Coherent :=
  forall_declaredVariables (fun v member => (globals_coherent coherent v member).1)
    fun v member => (statements_coherent coherent _ member).declares v rfl

theorem expressions_coherent : ∀ e ∈ document.expressions, e.Coherent symbols :=
  forall_expressions (fun v member => (globals_coherent coherent v member).2)
    fun s member => (statements_coherent coherent s member).expressions

end TypedDocument

/-- The facts that a check of a document recorded hang together, those of its expressions and of its variables. A body
that is checked starts with coherent bindings, its parameters among them. Numbers without a format are recorded only by
themselves. -/
structure Document.Coherent (document : Document) (typed : TypedDocument) (env : Env) : Prop where
  stored : ∀ e ∈ typed.expressions, e.facts.storage = true →
    e.facts.constness = .variable ∧ e.facts.value = none ∧ e.facts.ty.Concrete
  valued : ∀ e ∈ typed.expressions, e.facts.value.isSome = true → e.facts.constness = .constant
  named : ∀ e ∈ typed.expressions, e.facts.enumName = true →
    e.facts.constness = .constant ∧ e.facts.storage = false ∧ ∃ enumeration, e.name? = some enumeration.name
      ∧ env.symbols.enumeration? enumeration.name = some enumeration ∧ e.facts.ty = enumeration.ty
  declared : ∀ v ∈ typed.declaredVariables, v.binding.Coherent
  entered : ∀ declaration ∈ document.functions, ∀ function, declaration.registered? env.symbols = some function →
    ∃ inner body, declaration.entry env function = .ok inner ∧ inner.Binds Binding.Coherent
      ∧ (Stmt.checkBlock inner declaration.body).result = .ok body
      ∧ .function declaration.range function body ∈ typed.declarations
  bare : ∀ ty, typed.Records env.symbols ty → ty.Concrete ∨ ∃ kind, ty = .numeric kind

theorem TypedDocument.Records.bare {document : TypedDocument} {symbols : Symbols}
    (formed : ∀ one ∈ document.declarations, one.Formed symbols) (known : symbols.Formed) {ty : Ty}
    (recorded : document.Records symbols ty) : ty.Concrete ∨ ∃ kind, ty = .numeric kind := by
  obtain ⟨_, formed | bare⟩ | ⟨name, underlying, rfl, values⟩ := recorded.cases formed known
  · exact .inl formed.concrete
  · exact .inr bare
  · exact .inl (Ty.concrete_enumeration name values)

theorem Facts.Coherent.unknown {facts : Facts} (coherent : facts.Coherent) (varies : facts.constness = .variable) :
    facts.value = none := by
  cases given : facts.value with
  | none => rfl
  | some value =>
    have constant := coherent.valued (by rw [given, Option.isSome_some])
    cases varies.symm.trans constant

namespace Document

variable {document : Document} {typed : TypedDocument}

/-- Storage, constness and formats hang together in every document whose check ends well. -/
theorem check_document_coherent (document : Document) {context : Context}
    (ran : document.check.run {} = (.ok typed, context)) : document.Coherent typed context.env := by
  have yields : Yields (fun _ => True) (document.effect {}) (typed, context.env) :=
    document.check_does.yields ran fun _ _ => trivial
  have formed := effect_formed yields
  obtain ⟨held, coherent⟩ := effect_coherent yields
  have expressions := TypedDocument.expressions_coherent coherent
  have declared := TypedDocument.declaredVariables_coherent coherent
  refine ⟨?_, fun e listed => (expressions e listed).facts.valued, ?_, declared, ?_,
    fun ty recorded => recorded.bare formed held.formed.formed.symbols⟩
  · intro e listed stored
    have facts := (expressions e listed).facts
    have type := (TypedDocument.expressions_formed formed e listed).facts.stored stored
    exact ⟨facts.stored stored, facts.unknown (facts.stored stored), type.concrete⟩
  · intro e listed enumName
    obtain ⟨enumeration, name, registered, same⟩ := (expressions e listed).named enumName
    rw [same]
    exact ⟨rfl, rfl, enumeration, name, registered, rfl⟩
  · intro declaration written function registered
    obtain ⟨inner, body, entered, inside, declared⟩ := effect_entered yields written registered
    exact ⟨inner, body, entered, (held.entry registered entered).binds, inside.1, declared⟩

/-- An enum that is called by its name, a variable that gets a number without a format, and a place behind a pointer. -/
def placed : Document :=
  let span (line : UInt32) : Span := ⟨⟨line, 1⟩, ⟨line, 9⟩⟩
  let type (line : UInt32) (name : String) : TypeRef := .mk (span line) name []
  let name (line : UInt32) (text : String) : Expr := .reference (span line) text
  let header : HeaderDecl := ⟨span 3, [], [⟨span 3, "n", type 3 "i32"⟩], type 3 "void"⟩
  { range := span 1
    declarations := [
      .enumeration ⟨span 1, "E", [⟨span 1, "A", none⟩]⟩,
      .variable ⟨span 2, "const", "first", none, some (.member (span 2) (.parenthesized (span 2) (name 2 "E")) "A")⟩,
      .function ⟨span 3, "f", [header], .mk (span 3) [
        .variable ⟨span 4, "let", "x", none, some (.literal (span 4) "1.5")⟩,
        .variable ⟨span 5, "let", "p", none, some (.addressOf (span 5) (name 5 "x"))⟩,
        .assignment (span 6) "=" (.dereference (span 6) (name 6 "p")) (.literal (span 6) "2.5")]⟩] }

theorem placed_coherent :
    ∃ typed context, placed.check.run {} = (.ok typed, context) ∧ context.incidents = []
      ∧ typed.expressions.map (·.facts.storage) = [false, false, false, false, false, true, true, true, false]
      ∧ typed.expressions.map (·.facts.enumName) = [false, true, true, false, false, false, false, false, false]
      ∧ typed.expressions.map (·.facts.value.isSome) = [true, false, false, true, false, false, false, false, true]
      ∧ placed.Coherent typed context.env := by
  have shown : (placed.check.run {}).1.toOption.map (fun typed => typed.expressions.map fun e =>
      (e.facts.storage, e.facts.enumName, e.facts.value.isSome))
      = some [(false, false, true), (false, true, false), (false, true, false), (false, false, true),
        (false, false, false), (true, false, false), (true, false, false), (true, false, false),
        (false, false, true)] := by
    decide +kernel
  have quiet : (placed.check.run {}).2.incidents = [] := by decide +kernel
  cases ran : placed.check.run {} with
  | mk result context =>
    rw [ran] at shown quiet
    cases result with
    | error => cases shown
    | ok typed =>
      have facts := Option.some.inj shown
      have storage := congrArg (List.map (·.1)) facts
      have names := congrArg (List.map (·.2.1)) facts
      have values := congrArg (List.map (·.2.2)) facts
      rw [List.map_map] at storage names values
      exact ⟨typed, context, rfl, quiet, storage, names, values, check_document_coherent placed ran⟩

end Document

end ShaderCheck
