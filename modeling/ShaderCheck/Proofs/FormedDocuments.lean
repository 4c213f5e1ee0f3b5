import ShaderCheck.Proofs.Declarations
import ShaderCheck.Proofs.FormedTypes

/-!
The types of a whole document. Each way to register a symbol or to declare a value keeps what is in force as it can
arise, so every type that a check gives to an expression, a variable or a parameter does.
-/

namespace ShaderCheck

open Noted Attempt

namespace Symbols

variable {symbols more last : Symbols}

theorem Grows.refl (symbols : Symbols) : symbols.Grows symbols := ⟨id, id⟩

theorem Grows.trans (first : symbols.Grows more) (second : more.Grows last) : symbols.Grows last :=
  ⟨fun found => second.enums (first.enums found), fun found => second.structs (first.structs found)⟩

theorem Grows.of_addEnum? {enumeration : Enumeration} (added : symbols.addEnum? enumeration = some more) :
    symbols.Grows more ∧ more.enumeration? enumeration.name = some enumeration := by
  obtain ⟨free, ⟨⟩⟩ := Option.ite_none_left_eq_some.mp added
  simp only [hasTypeName, Bool.or_eq_true, not_or, Option.not_isSome_iff_eq_none] at free
  exact ⟨⟨find?_cons_of_fresh free.1.1, id⟩, List.find?_cons_of_pos (by simp)⟩

theorem Grows.of_addStruct? {layout : Layout} (added : symbols.addStruct? layout = some more) :
    symbols.Grows more ∧ more.struct? layout.name = some layout := by
  obtain ⟨free, ⟨⟩⟩ := Option.ite_none_left_eq_some.mp added
  simp only [hasTypeName, Bool.or_eq_true, not_or, Option.not_isSome_iff_eq_none] at free
  exact ⟨⟨id, find?_cons_of_fresh free.1.2⟩, List.find?_cons_of_pos (by simp)⟩

end Symbols

theorem Header.Formed.mono {symbols more : Symbols} (grows : symbols.Grows more) {header : Header}
    (formed : header.Formed symbols) : header.Formed more :=
  ⟨fun parameter member ty type => (formed.parameters parameter member ty type).mono grows,
    fun ty type => (formed.returns ty type).mono grows⟩

theorem Binding.Formed.mono {symbols more : Symbols} (grows : symbols.Grows more) {binding : Binding}
    (formed : binding.Formed symbols) : binding.Formed more :=
  ⟨formed.arises.mono grows, fun varies => (formed.stored varies).mono grows⟩

namespace Symbols.Formed

variable {symbols more : Symbols}

/-- What was registered before stays as it can be written. -/
theorem kept (formed : symbols.Formed) (grows : symbols.Grows more) :
    (∀ entry ∈ symbols.aliases, entry.2.Formed more) ∧ (∀ enumeration ∈ symbols.enums, enumeration.ty.Formed more)
    ∧ (∀ layout ∈ symbols.structs, layout.ty.Formed more)
    ∧ ∀ function ∈ symbols.functions, ∀ header ∈ function.headers, header.Formed more :=
  ⟨fun entry member => (formed.aliases entry member).mono grows,
    fun enumeration member => (formed.enums enumeration member).mono grows,
    fun layout member => (formed.structs layout member).mono grows,
    fun function member header part => (formed.functions function member header part).mono grows⟩

theorem addEnum? (formed : symbols.Formed) {enumeration : Enumeration}
    (values : enumeration.underlying = .i32 ∨ enumeration.underlying = .string)
    (added : symbols.addEnum? enumeration = some more) : symbols.Grows more ∧ more.Formed := by
  obtain ⟨grows, registered⟩ := Grows.of_addEnum? added
  obtain ⟨aliases, enums, structs, functions⟩ := formed.kept grows
  obtain ⟨-, ⟨⟩⟩ := Option.ite_none_left_eq_some.mp added
  exact ⟨grows, aliases, List.forall_mem_cons.mpr ⟨.enumeration registered values, enums⟩, structs, functions⟩

theorem addStruct? (formed : symbols.Formed) {layout : Layout}
    (members : ∀ member ∈ layout.members, member.2.Formed symbols) (added : symbols.addStruct? layout = some more) :
    symbols.Grows more ∧ more.Formed := by
  obtain ⟨grows, registered⟩ := Grows.of_addStruct? added
  obtain ⟨aliases, enums, structs, functions⟩ := formed.kept grows
  have inner : ∀ member ∈ layout.members, member.2.Formed more :=
    fun member listed => (members member listed).mono grows
  obtain ⟨-, ⟨⟩⟩ := Option.ite_none_left_eq_some.mp added
  exact ⟨grows, aliases, enums, List.forall_mem_cons.mpr ⟨.struct registered inner, structs⟩, functions⟩

theorem addAlias? (formed : symbols.Formed) {name : String} {ty : Ty} (type : ty.Formed symbols)
    (added : symbols.addAlias? name ty = some more) : symbols.Grows more ∧ more.Formed := by
  obtain ⟨-, ⟨⟩⟩ := Option.ite_none_left_eq_some.mp added
  have grows : symbols.Grows { symbols with aliases := (name, ty) :: symbols.aliases } := ⟨id, id⟩
  obtain ⟨aliases, enums, structs, functions⟩ := formed.kept grows
  exact ⟨grows, List.forall_mem_cons.mpr ⟨type.mono grows, aliases⟩, enums, structs, functions⟩

theorem addFunction? (formed : symbols.Formed) {function : Function}
    (headers : ∀ header ∈ function.headers, header.Formed symbols) (added : symbols.addFunction? function = some more) :
    symbols.Grows more ∧ more.Formed := by
  obtain ⟨-, rfl⟩ := addFunction?_eq_some added
  have grows : symbols.Grows { symbols with functions := function :: symbols.functions } := ⟨id, id⟩
  obtain ⟨aliases, enums, structs, functions⟩ := formed.kept grows
  have first : ∀ header ∈ function.headers, header.Formed { symbols with functions := function :: symbols.functions } :=
    fun header member => (headers header member).mono grows
  exact ⟨grows, aliases, enums, structs, List.forall_mem_cons.mpr ⟨first, functions⟩⟩

end Symbols.Formed

namespace Builtin

/-- The types that built-in functions take and give. -/
theorem all_types : ∀ function ∈ all, ∀ header ∈ function.headers,
    ∀ type ∈ header.returns :: header.parameters.map (·.type), type = .generic "T"
      ∨ type ∈ [Ty.bool, .vector 2 .bool, .vector 3 .bool, .vector 4 .bool].map HeaderType.concrete := by
  decide

theorem all_formed {symbols : Symbols} : ∀ function ∈ all, ∀ header ∈ function.headers, header.Formed symbols := by
  have booleans : ∀ ty ∈ [Ty.bool, .vector 2 .bool, .vector 3 .bool, .vector 4 .bool], ty.Formed symbols := by
    simp only [List.forall_mem_cons]
    exact ⟨.bool, .vector (by decide) rfl .bool, .vector (by decide) rfl .bool, .vector (by decide) rfl .bool, nofun⟩
  intro function member header part
  have types : ∀ type ∈ header.returns :: header.parameters.map (·.type), type.Formed symbols := by
    intro type listed
    obtain rfl | concrete := all_types function member header part type listed
    · exact nofun
    · obtain ⟨ty, boolean, rfl⟩ := List.mem_map.mp concrete
      rintro _ ⟨⟩
      exact booleans ty boolean
  obtain ⟨returns, parameters⟩ := List.forall_mem_cons.mp types
  exact ⟨List.forall_mem_map.mp parameters, returns⟩

theorem register_formed {symbols : Symbols} (formed : symbols.Formed) :
    symbols.Grows (register symbols) ∧ (register symbols).Formed := by
  unfold register
  refine List.foldlRecOn (motive := fun more => symbols.Grows more ∧ more.Formed) all _ ⟨.refl symbols, formed⟩
    fun more ⟨grows, formed⟩ function member => ?_
  cases added : more.addFunction? function with
  | none => exact ⟨grows, formed⟩
  | some last =>
    obtain ⟨further, formed⟩ := formed.addFunction? (all_formed function member) added
    exact ⟨grows.trans further, formed⟩

end Builtin

namespace Env.Formed

variable {env after : Env}

theorem openScope (formed : env.Formed) {kind : ScopeKind} {owner : ScopeOwner}
    (opened : env.openScope kind owner = .ok after) : after.Formed := by
  refine ⟨?_, symbols_of_openScope opened ▸ formed.symbols⟩
  rw [symbols_of_openScope opened]
  exact Binds.openScope formed.bindings opened

theorem declare (formed : env.Formed) {binding : Binding} (type : binding.Formed env.symbols)
    (declared : env.declare binding = .ok after) : after.Formed := by
  refine ⟨?_, symbols_of_declare declared ▸ formed.symbols⟩
  rw [symbols_of_declare declared]
  exact Binds.declare formed.bindings type declared

theorem withSymbols (formed : env.Formed) {more : Symbols} (grown : env.symbols.Grows more ∧ more.Formed) :
    ({ env with symbols := more } : Env).Formed :=
  ⟨fun scope member binding held => (formed.bindings scope member binding held).mono grown.1, grown.2⟩

/-- Whether a name is taken or not, what is in force stays as it can arise. -/
theorem register (formed : env.Formed) (node : NodeRef) (taken : Cause) {symbols : Option Symbols}
    (grown : ∀ {more}, symbols = some more → env.symbols.Grows more ∧ more.Formed) :
    (env.register node taken symbols).value.Formed := by
  cases symbols with
  | none => exact formed
  | some more => exact formed.withSymbols (grown rfl)

end Env.Formed

namespace EnumDecl

def Collected.Formed (collected : Collected) : Prop := ∀ ty ∈ collected.underlying, ty = .i32 ∨ ty = .string

variable {allowed : Incident → Prop} {node : NodeRef} {enumeration : String} {collected after : Collected}

theorem valueType_cases (value : Constant) : valueType value = .i32 ∨ valueType value = .string := by
  cases value with
  | string => exact .inr rfl
  | _ => exact .inl rfl

theorem collectMember_formed (formed : collected.Formed) {member : EnumMemberDecl}
    (yields : Yields allowed (collectMember node enumeration collected member) after) : after.Formed := by
  simp only [collectMember, yields_bind, yields_lift] at yields
  obtain ⟨found, -, rest⟩ := yields
  split at rest
  case h_1 =>
    rw [yields_pure] at rest
    exact rest ▸ formed
  case h_2 value =>
    split at rest
    case isTrue =>
      simp only [yields_bind, yields_pure] at rest
      obtain ⟨_, -, rfl⟩ := rest
      exact formed
    case isFalse =>
      simp only [yields_bind] at rest
      obtain ⟨next, -, rest⟩ := rest
      have counted : ∀ ty ∈ some (valueType value), ty = .i32 ∨ ty = .string := by
        rintro _ ⟨⟩
        exact valueType_cases value
      split at rest
      case isTrue =>
        simp only [yields_bind, yields_pure] at rest
        obtain ⟨_, -, rfl⟩ := rest
        exact counted
      case isFalse =>
        rw [yields_pure] at rest
        exact rest ▸ counted

theorem collectMembers_formed {members : List EnumMemberDecl} (formed : collected.Formed)
    (yields : Yields allowed (collectMembers node enumeration collected members) after) : after.Formed := by
  induction members generalizing collected with
  | nil =>
    rw [collectMembers, yields_pure] at yields
    exact yields ▸ formed
  | cons member rest ih =>
    simp only [collectMembers, yields_bind] at yields
    obtain ⟨middle, first, others⟩ := yields
    exact ih (collectMember_formed formed first) others

/-- The members of an enum are numbers or texts. -/
theorem collect_values {declaration : EnumDecl} {found : Enumeration}
    (yields : Yields allowed declaration.collect found) :
    found.underlying = .i32 ∨ found.underlying = .string := by
  simp only [collect, yields_bind, yields_pure] at yields
  obtain ⟨collected, first, _, -, rfl⟩ := yields
  have formed : collected.Formed := collectMembers_formed (by simp [Collected.Formed]) first
  cases given : collected.underlying with
  | none => exact .inl rfl
  | some ty => exact formed ty given

theorem check_formed {env after : Env} (formed : env.Formed) {declaration : EnumDecl} {typed : TypedDecl}
    (yields : Yields allowed (declaration.check env) (typed, after)) :
    after.Formed ∧ ∃ enumeration, typed = .enumeration declaration.range enumeration
      ∧ (enumeration.underlying = .i32 ∨ enumeration.underlying = .string) := by
  simp only [EnumDecl.check, yields_bind, yields_pure, yields_lift] at yields
  obtain ⟨enumeration, collected, _, ⟨rfl, -⟩, ⟨⟩⟩ := yields
  have values := collect_values collected
  exact ⟨formed.register _ _ fun added => formed.symbols.addEnum? values added, enumeration, rfl, values⟩

end EnumDecl

theorem StructDecl.collectMembers_formed {symbols : Symbols} (formed : symbols.Formed) (node : NodeRef)
    (struct : String) (properties : List PropertyDecl) {members : List (String × Ty)}
    (before : ∀ member ∈ members, member.2.Formed symbols) :
    ∀ member ∈ (collectMembers symbols node struct members properties).value, member.2.Formed symbols := by
  induction properties generalizing members with
  | nil => exact before
  | cons property rest ih =>
    refine ih ?_
    simp only [collectMember, value_bind]
    split
    · exact before
    · exact List.forall_mem_append.mpr ⟨before, List.forall_mem_singleton.mpr (property.type.resolve_formed formed)⟩

namespace HeaderDecl

variable {symbols : Symbols}

theorem collectParameters_formed (formed : symbols.Formed) (node : NodeRef) (generics : List Generic)
    (names : List String) (declarations : List ParameterDecl) :
    ∀ parameter ∈ (collectParameters symbols node generics names declarations).value,
      parameter.type.Formed symbols := by
  induction declarations generalizing names with
  | nil => nofun
  | cons declaration rest ih =>
    exact List.forall_mem_cons.mpr ⟨declaration.type.resolveInHeader_formed formed generics, ih _⟩

theorem collectAll_formed (formed : symbols.Formed) (declarations : List HeaderDecl) :
    ∀ header ∈ (collectAll symbols declarations).value, header.Formed symbols := by
  induction declarations with
  | nil => nofun
  | cons declaration rest ih =>
    refine List.forall_mem_cons.mpr ⟨⟨?_, ?_⟩, ih⟩
    · exact collectParameters_formed formed _ _ _ _
    · exact declaration.returnType.resolveInHeader_formed formed _

end HeaderDecl

theorem Document.collectSignatures_formed {env : Env} (formed : env.Formed) (declarations : List Decl) :
    (collectSignatures env declarations).value.Formed := by
  induction declarations generalizing env with
  | nil => exact formed
  | cons declaration rest ih =>
    cases declaration with
    | function declaration =>
      have headers := HeaderDecl.collectAll_formed formed.symbols declaration.headers
      exact ih (formed.register _ _ fun added => formed.symbols.addFunction? headers added)
    | _ => exact ih formed

namespace VariableDecl

variable {env : Env} {node : NodeRef}

theorem declaredType_formed (formed : env.symbols.Formed) (type : Option TypeRef) :
    ∀ ty ∈ (declaredType env type).value, ty.Formed env.symbols := by
  cases type with
  | none => nofun
  | some ref =>
    rintro _ ⟨⟩
    exact ref.resolve_formed formed

theorem checkOptional_formed (formed : env.Formed) (e : Option Expr) :
    ∀ typed ∈ (Expr.checkOptional env e).value, typed.Formed env.symbols := by
  cases e with
  | none => nofun
  | some e =>
    rintro _ ⟨⟩
    exact e.check_formed formed

variable {name : String} {declared : Option Ty} {initializer : Option Facts} {symbols : Symbols}

theorem bindingType_formed (constness : Constness) (written : ∀ ty ∈ declared, ty.Formed symbols)
    (given : ∀ facts ∈ initializer, facts.ty.Arises symbols) :
    (bindingType node name constness declared initializer).value.Arises symbols
    ∧ (constness = .variable → (bindingType node name constness declared initializer).value.Formed symbols) := by
  match declared, initializer with
  | some ty, some _ | some ty, none =>
    have type := written ty rfl
    exact ⟨type.arises, fun _ => type⟩
  | none, some value =>
    have arises := given value rfl
    cases constness with
    | «variable» => exact ⟨arises.concretize.arises, fun _ => arises.concretize⟩
    | constant => exact ⟨arises, nofun⟩
  | none, none => exact ⟨.inl .invalid, fun _ => .invalid⟩

theorem externalType_formed (space : AddressSpace) (written : ∀ ty ∈ declared, ty.Formed symbols) :
    (externalType node name space declared initializer).value.Formed symbols := by
  match declared with
  | some ty => exact written ty rfl
  | none => exact .invalid

/-- A variable is bound to a type that can arise, and to one that can be written if it may change. -/
theorem Bound.formed {allowed : Incident → Prop} {declaration : VariableDecl} {binding : Binding}
    {initializer : Option TypedExpr} (formed : env.Formed)
    (bound : Bound allowed env node declaration binding initializer) : binding.Formed env.symbols := by
  have written := declaredType_formed formed.symbols declaration.type
  have initial := checkOptional_formed formed declaration.initializer
  rw [← bound.value] at initial
  have given : ∀ facts ∈ initializer.map TypedExpr.facts, facts.ty.Arises env.symbols := by
    simpa using fun e member => (initial e member).facts.arises
  cases bound.source with
  | inside _ _ type =>
    obtain ⟨arises, stored⟩ := bindingType_formed binding.constness written given
    exact ⟨type ▸ arises, fun varies => type ▸ stored varies⟩
  | outside _ _ type =>
    have external : binding.ty.Formed env.symbols := type ▸ externalType_formed binding.space written
    exact ⟨external.arises, fun _ => external⟩

end VariableDecl

structure Env.FormedWith (symbols : Symbols) (env : Env) : Prop where
  formed : env.Formed
  known : env.symbols = symbols

namespace Env.FormedWith

variable {symbols : Symbols} {env after : Env}

theorem openScope (held : env.FormedWith symbols) {kind : ScopeKind} {owner : ScopeOwner}
    (opened : env.openScope kind owner = .ok after) : after.FormedWith symbols :=
  ⟨held.formed.openScope opened, (symbols_of_openScope opened).trans held.known⟩

theorem declare (held : env.FormedWith symbols) {binding : Binding} (type : binding.Formed symbols)
    (declared : env.declare binding = .ok after) : after.FormedWith symbols := by
  obtain ⟨formed, rfl⟩ := held
  exact ⟨formed.declare type declared, symbols_of_declare declared⟩

theorem lasts {allowed : Incident → Prop} : Env.Lasts allowed (FormedWith symbols) where
  opens _ held opened := held.openScope opened
  declares held yields := by
    obtain ⟨bound, declared⟩ := VariableDecl.checkLocal_yields yields
    exact held.declare (held.known ▸ bound.formed held.formed) declared

end Env.FormedWith

structure TypedStmt.Formed (symbols : Symbols) (s : TypedStmt) : Prop where
  expressions : ∀ e ∈ s.expressions, ∀ node ∈ e.nodes, node.Formed symbols
  declares : ∀ v, s = .variable v → v.binding.Formed symbols
  returns : ∀ {range ty value}, s = .returning range ty value → ty.Arises symbols
  leaves : ∀ {block}, s = .block block → block.facts.returns.Arises symbols

theorem TypedStmt.returning_mem_nodesOfStmts {statements : List TypedStmt} {range : Span} {ty : Ty}
    {value : Option TypedExpr} (member : .returning range ty value ∈ statements) :
    .returning range ty value ∈ nodesOfStmts statements := by
  induction statements with
  | nil => cases member
  | cons s rest ih =>
    cases member with
    | head => exact List.mem_append_left _ List.mem_cons_self
    | tail _ behind => exact List.mem_append_right _ (ih behind)

/-- What a block is noted to return is what a statement in it does, or nothing. -/
theorem BlockFacts.returns_ofStatements {good : Ty → Prop} {statements : List TypedStmt} (nothing : good .void)
    (each : ∀ range ty value, .returning range ty value ∈ statements → good ty) :
    good (ofStatements statements).returns := by
  have types : ∀ ty ∈ returnTypes statements, good ty := by
    intro ty member
    obtain ⟨s, inside, found⟩ := List.mem_filterMap.mp member
    cases s with
    | returning range other value =>
      cases found
      exact each range ty value inside
    | _ => cases found
  unfold ofStatements
  cases first : returnTypes statements with
  | nil => exact nothing
  | cons ty rest => exact types ty (first ▸ List.mem_cons_self)

namespace Stmt.Checked

variable {allowed : Incident → Prop} {symbols : Symbols}

theorem returns_arises {range : Span} {ty : Ty} {value : Option TypedExpr}
    (checked : Stmt.Checked allowed (Env.FormedWith symbols) (.returning range ty value)) : ty.Arises symbols := by
  obtain ⟨env, s, after, held, yields⟩ := checked
  cases Stmt.outcome_of_yields yields with
  | @returning _ written _ _ type =>
    subst type
    cases written with
    | none => exact .inl .void
    | some e => exact held.known ▸ (e.check_formed held.formed).facts.arises

theorem formed {typed : TypedStmt} (checked : Stmt.Checked allowed (Env.FormedWith symbols) typed) :
    typed.Formed symbols where
  expressions e held node part := by
    obtain ⟨env, known, inside⟩ := checked.expressions Env.FormedWith.lasts e held
    rw [← known.known]
    exact (inside.nodes node part).formed known.formed
  declares := by
    rintro v rfl
    obtain ⟨env, s, after, held, yields⟩ := checked
    cases Stmt.outcome_of_yields yields with
    | «variable» declares =>
      obtain ⟨bound, -⟩ := VariableDecl.checkLocal_yields declares
      exact held.known ▸ bound.formed held.formed
  returns := by
    rintro range ty value rfl
    exact checked.returns_arises
  leaves := by
    rintro block rfl
    obtain ⟨env, s, after, held, yields⟩ := checked
    cases Stmt.outcome_of_yields yields with
    | @block body _ inside =>
      obtain ⟨range, statements⟩ := body
      have nodes := Stmt.checkBlock_nodes Env.FormedWith.lasts _ held inside
      simp only [checkBlock, openScope, yields_bind, yields_pure, yields_of] at inside
      obtain ⟨_, -, list, -, rfl⟩ := inside
      refine BlockFacts.returns_ofStatements (.inl .void) fun range ty value member => ?_
      exact (nodes _ (List.mem_cons_of_mem _ (TypedStmt.returning_mem_nodesOfStmts member))).returns_arises

end Stmt.Checked

/-- The types in a declaration can arise: those of a function's headers and statements, and that of a global. The types
of an alias or of a struct's members were written when fewer symbols were registered. -/
inductive TypedDecl.Formed (symbols : Symbols) : TypedDecl → Prop where
  | function {range : Span} {function : Function} {body : TypedBlock}
      (headers : ∀ header ∈ function.headers, header.Formed symbols)
      (statements : ∀ s ∈ (TypedStmt.block body).nodes, s.Formed symbols) :
      Formed symbols (.function range function body)
  | duplicate {range bodyRange : Span} : Formed symbols (.duplicate range bodyRange)
  | enumeration {range : Span} {enumeration : Enumeration}
      (values : enumeration.underlying = .i32 ∨ enumeration.underlying = .string) :
      Formed symbols (.enumeration range enumeration)
  | struct {range : Span} {layout : Layout} {earlier : Symbols}
      (members : ∀ member ∈ layout.members, member.2.Formed earlier) : Formed symbols (.struct range layout)
  | alias {range : Span} {ty : Ty} {earlier : Symbols} (type : ty.Formed earlier) : Formed symbols (.alias range ty)
  | variable {v : TypedVariable} (binding : v.binding.Formed symbols)
      (expressions : ∀ e ∈ v.initializer.toList, ∀ node ∈ e.nodes, node.Formed symbols) : Formed symbols (.variable v)

namespace FunctionDecl

variable {symbols : Symbols} {function : Function}

theorem parameterType_formed (headers : ∀ header ∈ function.headers, header.Formed symbols) (position : Nat) :
    (parameterType function position).Formed symbols := by
  unfold parameterType
  dsimp only
  split
  case h_1 ty others types =>
    split
    case isTrue =>
      have listed : some (.concrete ty) ∈ function.headers.map (·.parameterType? position) := by
        rw [types]
        exact List.mem_cons_self
      obtain ⟨header, member, found⟩ := List.mem_map.mp listed
      obtain ⟨parameter, inside, type⟩ := Option.map_eq_some_iff.mp found
      exact (headers header member).parameters parameter (List.mem_of_getElem? inside) ty type
    case isFalse => exact .invalid
  case h_2 => exact .invalid

theorem entry_formed {env inner : Env} {declaration : FunctionDecl} (held : env.FormedWith symbols)
    (headers : ∀ header ∈ function.headers, header.Formed symbols)
    (entered : declaration.entry env function = .ok inner) : inner.FormedWith symbols := by
  refine entry_keeps entered (fun opened => held.openScope opened) fun {_ _ _ place} _ inside declared => ?_
  have type := parameterType_formed headers place
  exact inside.declare ⟨type.arises, fun _ => type⟩ declared

theorem check_formed {allowed : Incident → Prop} {env : Env} {declaration : FunctionDecl} {typed : TypedDecl}
    (held : env.FormedWith symbols) (yields : Yields allowed (declaration.check env) typed) : typed.Formed symbols := by
  cases outcome_of_yields yields with
  | duplicate => exact .duplicate
  | @function function _ _ registered entered inside =>
    have listed : function ∈ env.symbols.functions :=
      List.mem_of_find?_eq_some (Option.filter_eq_some_iff.mp registered).1
    have headers : ∀ header ∈ function.headers, header.Formed symbols :=
      held.known ▸ held.formed.symbols.functions function listed
    have nodes := Stmt.checkBlock_nodes Env.FormedWith.lasts declaration.body (entry_formed held headers entered) inside
    exact .function headers fun s member => (nodes s member).formed

end FunctionDecl

namespace Decl

variable {allowed : Incident → Prop} {symbols : Symbols} {env after : Env} {declaration : Decl} {typed : TypedDecl}

theorem check_type_formed (due : declaration.round = .enums ∨ declaration.round = .layouts) (formed : env.Formed)
    (yields : Yields allowed (declaration.check env) (typed, after)) :
    after.Formed ∧ ∀ symbols, typed.Formed symbols := by
  cases declaration with
  | enumeration declaration =>
    obtain ⟨kept, _, rfl, values⟩ := EnumDecl.check_formed formed yields
    exact ⟨kept, fun _ => .enumeration values⟩
  | struct declaration =>
    simp only [check, yields_bind, yields_pure, yields_lift] at yields
    obtain ⟨_, ⟨rfl, -⟩, same⟩ := yields
    obtain ⟨rfl, rfl⟩ := Prod.mk.inj same
    have members := StructDecl.collectMembers_formed formed.symbols ⟨.structDeclaration, declaration.range⟩
      declaration.name declaration.properties (List.forall_mem_nil _)
    exact ⟨formed.register _ _ fun added => formed.symbols.addStruct? members added, fun _ => .struct members⟩
  | «alias» declaration =>
    simp only [check, yields_bind, yields_pure, yields_lift] at yields
    obtain ⟨_, ⟨rfl, -⟩, same⟩ := yields
    obtain ⟨rfl, rfl⟩ := Prod.mk.inj same
    have type := declaration.type.resolve_formed formed.symbols
    exact ⟨formed.register _ _ fun added => formed.symbols.addAlias? type added, fun _ => .alias type⟩
  | function | «variable» => simp [round] at due

theorem check_global_formed (due : declaration.round = .globals) (held : env.FormedWith symbols)
    (yields : Yields allowed (declaration.check env) (typed, after)) :
    after.FormedWith symbols ∧ typed.Formed symbols := by
  cases declaration with
  | «variable» declaration =>
    obtain ⟨binding, initializer, rfl, bound, declared⟩ := VariableDecl.checkGlobal_yields yields
    have type : binding.Formed symbols := held.known ▸ bound.formed held.formed
    refine ⟨held.declare type declared, .variable type fun e given node part => ?_⟩
    rw [bound.value] at given
    rw [← held.known]
    exact ((Expr.checkOptional_checked bound.given e given).nodes node part).formed held.formed
  | _ => cases due

theorem check_body_formed (due : declaration.round = .bodies) (held : env.FormedWith symbols)
    (yields : Yields allowed (declaration.check env) (typed, after)) :
    after.FormedWith symbols ∧ typed.Formed symbols := by
  cases declaration with
  | function declaration =>
    simp only [check, yields_bind, yields_pure] at yields
    obtain ⟨_, checked, ⟨⟩⟩ := yields
    exact ⟨held, declaration.check_formed held checked⟩
  | _ => cases due

end Decl

namespace Document

theorem opened_formed (document : Document) : document.opened.Formed := by
  have builtin : (Builtin.register {}).Formed := (Builtin.register_formed ⟨by simp, by simp, by simp, by simp⟩).2
  exact ⟨by simp [opened], builtin⟩

/-- From declaration to declaration, everything in force and everything that was checked has types as they can arise. -/
theorem keepsUp_formed (document : Document) (allowed : Incident → Prop) :
    document.KeepsUp allowed Env.Formed Env.FormedWith fun symbols _ typed => typed.Formed symbols where
  start := document.opened_formed
  types due formed yields := Decl.check_type_formed due formed yields
  signatures formed signed _ := by
    subst signed
    exact ⟨collectSignatures_formed formed document.declarations, rfl⟩
  globals due held yields := Decl.check_global_formed due held yields
  bodies _ due held yields := Decl.check_body_formed due held yields

variable {document : Document} {allowed : Incident → Prop} {typed : TypedDocument} {after : Env}

/-- Every declaration that a check comes to has types as they can arise. -/
theorem effect_formed (yields : Yields allowed (document.effect {}) (typed, after)) :
    ∀ one ∈ typed.declarations, one.Formed after.symbols := by
  obtain ⟨_, ⟨-, rfl⟩, formed⟩ := (document.keepsUp_formed allowed).effect yields
  intro one declared
  obtain ⟨_, -, fine⟩ := exists_of_forall₂ formed.flip one declared
  exact fine

/-- So does everything that is in force after it. -/
theorem effect_env_formed (yields : Yields allowed (document.effect {}) (typed, after)) : after.Formed := by
  obtain ⟨_, held, -⟩ := (document.keepsUp_formed allowed).effect yields
  exact held.formed

end Document

namespace TypedDocument

variable {document : TypedDocument} {symbols : Symbols}
  (formed : ∀ one ∈ document.declarations, one.Formed symbols)

include formed

theorem statements_formed : ∀ s ∈ document.statements, s.Formed symbols := by
  intro s member
  obtain ⟨one, declared, inside⟩ := List.mem_flatMap.mp member
  cases formed one declared with
  | function _ statements => exact statements s inside
  | duplicate | enumeration | struct | «alias» | «variable» => cases inside

theorem globals_formed : ∀ v ∈ document.declarations.filterMap TypedDecl.global?,
    v.binding.Formed symbols ∧ ∀ e ∈ v.initializer.toList, ∀ node ∈ e.nodes, node.Formed symbols := by
  intro v member
  obtain ⟨one, declared, found⟩ := List.mem_filterMap.mp member
  cases formed one declared with
  | «variable» binding expressions =>
    cases found
    exact ⟨binding, expressions⟩
  | function | duplicate | enumeration | struct | «alias» => cases found

theorem declaredVariables_formed : ∀ v ∈ document.declaredVariables, v.binding.Formed symbols :=
  forall_declaredVariables (fun v member => (globals_formed formed v member).1)
    fun v member => (statements_formed formed _ member).declares v rfl

theorem expressions_formed : ∀ e ∈ document.expressions, e.Formed symbols :=
  forall_expressions (fun v member => (globals_formed formed v member).2)
    fun s member => (statements_formed formed s member).expressions

end TypedDocument

end ShaderCheck
