import ShaderCheck.Proofs.Agreement
import ShaderCheck.Proofs.Rounds
import ShaderCheck.Proofs.Traversal
import ShaderCheck.Proofs.Whole

/-!
What a document has in force when its bodies are checked. If nothing is reported then everything in force stays whole
from declaration to declaration, a variable fits its initializer, and the name of a function stands for the function
that its declaration describes.
-/

namespace ShaderCheck

open Noted Attempt

namespace Env

variable {env after : Env}

theorem openScope_eq_ok_iff {kind : ScopeKind} {owner : ScopeOwner} : env.openScope kind owner = .ok after ↔
    env.document ≠ none ∧ after = { env with scopes := ⟨kind, owner, []⟩ :: env.scopes } := by
  cases set : env.document <;> simp [openScope, set, eq_comm]

theorem openScope_eq_ok {kind : ScopeKind} {owner : ScopeOwner} (opened : env.openScope kind owner = .ok after) :
    after = { env with scopes := ⟨kind, owner, []⟩ :: env.scopes } :=
  (openScope_eq_ok_iff.mp opened).2

theorem declare_eq_ok {binding : Binding} (declared : env.declare binding = .ok after) :
    ∃ scope outer, env.scopes = scope :: outer
      ∧ after = { env with scopes := { scope with bindings := binding :: scope.bindings } :: outer } := by
  unfold declare at declared
  split at declared
  case h_1 => cases declared
  case h_2 scope outer scopes =>
    split at declared
    · cases declared
    · cases declared
      exact ⟨scope, outer, scopes, rfl⟩

/-- What is in force with some more bindings in the innermost scope. -/
def adding (env : Env) (bindings : List Binding) : Env :=
  { env with scopes := env.scopes.modifyHead fun scope => { scope with bindings := bindings ++ scope.bindings } }

theorem adding_nil (env : Env) : env.adding [] = env := by
  obtain ⟨document, _ | ⟨scope, outer⟩, symbols⟩ := env <;> rfl

theorem adding_append (env : Env) (later earlier : List Binding) :
    env.adding (later ++ earlier) = (env.adding earlier).adding later := by
  obtain ⟨document, _ | ⟨scope, outer⟩, symbols⟩ := env
  · rfl
  · simp [adding]

theorem adding_of_declare {binding : Binding} (declared : env.declare binding = .ok after) :
    after = env.adding [binding] := by
  obtain ⟨scope, outer, scopes, rfl⟩ := declare_eq_ok declared
  simp [adding, scopes]

def Binds (good : Binding → Prop) (env : Env) : Prop := ∀ scope ∈ env.scopes, ∀ binding ∈ scope.bindings, good binding

theorem Binds.openScope {good : Binding → Prop} (binds : env.Binds good) {kind : ScopeKind} {owner : ScopeOwner}
    (opened : env.openScope kind owner = .ok after) : after.Binds good := by
  obtain rfl := openScope_eq_ok opened
  exact List.forall_mem_cons.mpr ⟨nofun, binds⟩

theorem Binds.declare {good : Binding → Prop} (binds : env.Binds good) {binding : Binding} (fine : good binding)
    (declared : env.declare binding = .ok after) : after.Binds good := by
  obtain ⟨scope, outer, scopes, rfl⟩ := declare_eq_ok declared
  rw [Binds, scopes] at binds
  obtain ⟨inner, others⟩ := List.forall_mem_cons.mp binds
  exact List.forall_mem_cons.mpr ⟨List.forall_mem_cons.mpr ⟨fine, inner⟩, others⟩

theorem symbols_of_openScope {kind : ScopeKind} {owner : ScopeOwner} (opened : env.openScope kind owner = .ok after) :
    after.symbols = env.symbols := by
  rw [openScope_eq_ok opened]

theorem symbols_of_declare {binding : Binding} (declared : env.declare binding = .ok after) :
    after.symbols = env.symbols := by
  obtain ⟨scope, outer, -, rfl⟩ := declare_eq_ok declared
  rfl

theorem owner?_of_openScope {kind : ScopeKind} {owner : ScopeOwner} (opened : env.openScope kind owner = .ok after)
    (other : ScopeKind) : after.owner? other = if kind = other then some owner else env.owner? other := by
  obtain rfl := openScope_eq_ok opened
  by_cases same : kind = other <;> simp [owner?, same]

/-- The innermost scope keeps its kind and owner as it gets a further name. -/
theorem owner?_of_declare {binding : Binding} (declared : env.declare binding = .ok after) (kind : ScopeKind) :
    after.owner? kind = env.owner? kind := by
  obtain ⟨scope, outer, scopes, rfl⟩ := declare_eq_ok declared
  by_cases same : scope.kind = kind <;> simp [owner?, scopes, same]

theorem Whole.openScope (whole : env.Whole) {kind : ScopeKind} {owner : ScopeOwner}
    (opened : env.openScope kind owner = .ok after) : after.Whole :=
  ⟨Binds.openScope whole.bindings opened, symbols_of_openScope opened ▸ whole.symbols⟩

theorem Whole.declare (whole : env.Whole) {binding : Binding} (type : binding.ty.Whole)
    (declared : env.declare binding = .ok after) : after.Whole :=
  ⟨Binds.declare whole.bindings type declared, symbols_of_declare declared ▸ whole.symbols⟩

theorem Whole.withSymbols (whole : env.Whole) {more : Symbols} (symbols : more.Whole) :
    ({ env with symbols := more } : Env).Whole :=
  ⟨whole.bindings, symbols⟩

/-- Registering fails only with a report. -/
theorem register_gives (node : NodeRef) (taken : Cause) (symbols : Option Symbols) :
    Gives (env.register node taken symbols)
      fun after => ∃ more, symbols = some more ∧ after = { env with symbols := more } := by
  cases symbols with
  | none => exact .report
  | some more => exact .pure ⟨more, rfl, rfl⟩

end Env

namespace Symbols

variable {symbols more : Symbols}

theorem addFunction?_eq_some {function : Function} (added : symbols.addFunction? function = some more) :
    symbols.function? function.name = none ∧ more = { symbols with functions := function :: symbols.functions } := by
  obtain ⟨free, ⟨⟩⟩ := Option.ite_none_left_eq_some.mp added
  exact ⟨Option.not_isSome_iff_eq_none.mp free, rfl⟩

/-- A further function leaves what the names of types stand for. -/
theorem typesAgree_of_addFunction? {function : Function} (added : symbols.addFunction? function = some more) :
    symbols.TypesAgree more := by
  obtain ⟨-, rfl⟩ := addFunction?_eq_some added
  exact ⟨fun _ => rfl, fun _ => rfl, fun _ => rfl⟩

theorem Whole.addFunction? (whole : symbols.Whole) {function : Function}
    (headers : ∀ header ∈ function.headers, header.Whole) (added : symbols.addFunction? function = some more) :
    more.Whole := by
  obtain ⟨-, rfl⟩ := addFunction?_eq_some added
  exact ⟨whole.aliases, whole.structs, List.forall_mem_cons.mpr ⟨headers, whole.functions⟩⟩

theorem Whole.addEnum? (whole : symbols.Whole) {enumeration : Enumeration}
    (added : symbols.addEnum? enumeration = some more) : more.Whole := by
  obtain ⟨-, ⟨⟩⟩ := Option.ite_none_left_eq_some.mp added
  exact ⟨whole.aliases, whole.structs, whole.functions⟩

theorem Whole.addStruct? (whole : symbols.Whole) {layout : Layout} (type : layout.ty.Whole)
    (added : symbols.addStruct? layout = some more) : more.Whole := by
  obtain ⟨-, ⟨⟩⟩ := Option.ite_none_left_eq_some.mp added
  exact ⟨whole.aliases, List.forall_mem_cons.mpr ⟨type, whole.structs⟩, whole.functions⟩

theorem Whole.addAlias? (whole : symbols.Whole) {name : String} {ty : Ty} (type : ty.Whole)
    (added : symbols.addAlias? name ty = some more) : more.Whole := by
  obtain ⟨-, ⟨⟩⟩ := Option.ite_none_left_eq_some.mp added
  exact ⟨List.forall_mem_cons.mpr ⟨type, whole.aliases⟩, whole.structs, whole.functions⟩

end Symbols

namespace Builtin

theorem generic_whole (name : String) : (HeaderType.generic name).Whole := nofun

theorem concrete_whole {ty : Ty} (whole : ty.Whole) : (HeaderType.concrete ty).Whole := by
  rintro _ ⟨⟩
  exact whole

theorem generically_whole (names : List String) : ∀ parameter ∈ generically names, parameter.type.Whole :=
  List.forall_mem_map.mpr fun _ _ => generic_whole "T"

theorem uniform_whole {name : String} {tags : List Tag} {parameters : List String} :
    ∀ header ∈ (uniform name tags parameters).headers, header.Whole :=
  List.forall_mem_singleton.mpr ⟨generically_whole parameters, generic_whole "T"⟩

theorem reduction_whole {name : String} : ∀ header ∈ (reduction name).headers, header.Whole := by
  have booleans : ∀ ty ∈ [Ty.vector 2 .bool, .vector 3 .bool, .vector 4 .bool, .bool], ty.Whole := by
    simp only [List.forall_mem_cons]
    exact ⟨.vector 2 .bool, .vector 3 .bool, .vector 4 .bool, .bool, nofun⟩
  refine List.forall_mem_map.mpr fun ty member => ⟨?_, concrete_whole .bool⟩
  exact List.forall_mem_singleton.mpr (concrete_whole (booleans ty member))

theorem select_whole : ∀ header ∈ select.headers, header.Whole := by
  refine List.forall_mem_singleton.mpr ⟨List.forall_mem_append.mpr ⟨generically_whole _, ?_⟩, generic_whole "T"⟩
  exact List.forall_mem_singleton.mpr (concrete_whole .bool)

theorem all_whole : ∀ function ∈ all, ∀ header ∈ function.headers, header.Whole := by
  rw [all]
  repeat rw [List.forall_mem_cons]
  exact ⟨uniform_whole, uniform_whole, uniform_whole, uniform_whole, uniform_whole, uniform_whole, uniform_whole,
    uniform_whole, uniform_whole, select_whole, reduction_whole, reduction_whole, nofun⟩

theorem register_whole {symbols : Symbols} (whole : symbols.Whole) : (register symbols).Whole := by
  unfold register
  refine List.foldlRecOn all _ whole fun symbols whole function member => ?_
  cases added : symbols.addFunction? function with
  | none => exact whole
  | some more => exact whole.addFunction? (all_whole function member) added

end Builtin

structure TypedVariable.Sound (typed : TypedVariable) : Prop where
  type : typed.binding.ty.Whole
  fits : ∀ e ∈ typed.initializer, e.facts.ty.castsTo typed.binding.ty = true
  constant : typed.binding.constness = .constant → ∃ e ∈ typed.initializer, e.facts.constness = .constant

namespace VariableDecl

variable {env : Env} {node : NodeRef} {name : String} {declared : Option Ty} {initializer : Option Facts}

theorem declaredType_whole (whole : env.symbols.Whole) (type : Option TypeRef) :
    Gives (declaredType env type) fun declared => ∀ ty ∈ declared, ty.Whole := by
  cases type with
  | none => exact .pure nofun
  | some ref => exact .bind (ref.resolve_whole whole) fun _ inner => .pure (by simpa using inner)

theorem checkOptional_whole (whole : env.Whole) (e : Option Expr) :
    Gives (Expr.checkOptional env e) fun typed => ∀ e ∈ typed, e.facts.ty.Whole := by
  cases e with
  | none => exact .pure nofun
  | some e => exact .bind (e.check_whole whole) fun _ inner => .pure (by simpa using inner)

theorem bindingType_gives (constness : Constness) (written : ∀ ty ∈ declared, ty.Whole)
    (given : ∀ facts ∈ initializer, facts.ty.Whole) :
    Gives (bindingType node name constness declared initializer)
      fun ty => ty.Whole ∧ ∀ facts ∈ initializer, facts.ty.castsTo ty = true := by
  match declared, initializer with
  | some ty, some value =>
    have type := written ty rfl
    have inner := given value rfl
    refine .bind .expect fun _ fits => .pure ⟨type, ?_⟩
    rw [type.isInvalid, inner.isInvalid] at fits
    simpa using fits
  | some ty, none => exact .pure ⟨written ty rfl, nofun⟩
  | none, some value =>
    have inner := given value rfl
    refine .pure ?_
    split
    · exact ⟨inner.concretize, by simpa using inner.casts_concretize.castsTo⟩
    · exact ⟨inner, by simpa using (Ty.Casts.refl inner.isSolid).castsTo⟩
  | none, none => exact .report

theorem externalType_gives (space : AddressSpace) (written : ∀ ty ∈ declared, ty.Whole) :
    Gives (externalType node name space declared initializer) fun ty => ty.Whole ∧ initializer = none := by
  refine .bind .expect fun _ absent => ?_
  match declared with
  | some ty => exact .pure ⟨written ty rfl, by simpa using absent⟩
  | none => exact .report

theorem checkConstantInitializer_gives (given : ∀ facts ∈ initializer, facts.ty.Whole) :
    Gives (checkConstantInitializer node name initializer)
      fun _ => ∃ facts ∈ initializer, facts.constness = .constant := by
  match initializer with
  | none => exact fun quiet => (quiet _ List.mem_cons_self).elim
  | some value =>
    intro quiet
    have constant := Gives.expect quiet
    rw [(given value rfl).isInvalid] at constant
    exact ⟨value, rfl, by simpa using constant⟩

/-- Where everything in force is whole, a variable that nothing is reported about is sound. -/
theorem Bound.sound {declaration : VariableDecl} {typed : TypedVariable} (whole : env.Whole)
    (bound : Bound noIncident env node declaration typed.binding typed.initializer) : typed.Sound := by
  have written := declaredType_whole whole.symbols declaration.type bound.written
  have initial := checkOptional_whole whole declaration.initializer bound.given
  rw [← bound.value] at initial
  have given : ∀ facts ∈ typed.initializer.map TypedExpr.facts, facts.ty.Whole := by simpa using initial
  cases bound.source with
  | inside constant fits type =>
    obtain ⟨inner, casts⟩ := bindingType_gives _ written given fits
    rw [← type] at inner casts
    refine ⟨inner, by simpa using casts, fun fixed => ?_⟩
    simpa using checkConstantInitializer_gives given (constant fixed)
  | outside varies fits type =>
    obtain ⟨inner, absent⟩ := externalType_gives _ written fits
    rw [← type] at inner
    have absent : typed.initializer = none := by simpa using absent
    exact ⟨inner, by simp [absent], fun fixed => nomatch varies.symm.trans fixed⟩

end VariableDecl

namespace StructDecl

theorem collectMembers_whole {symbols : Symbols} (whole : symbols.Whole) (node : NodeRef) (struct : String)
    (properties : List PropertyDecl) {members : List (String × Ty)} (before : ∀ member ∈ members, member.2.Whole) :
    Gives (collectMembers symbols node struct members properties)
      fun members => ∀ member ∈ members, member.2.Whole := by
  induction properties generalizing members with
  | nil => exact .pure before
  | cons property rest ih =>
    refine .bind ?_ fun _ collected => ih collected
    refine .bind (property.type.resolve_whole whole) fun ty type => ?_
    split
    · exact .report
    · exact .after fun _ => .pure (List.forall_mem_append.mpr ⟨before, List.forall_mem_singleton.mpr type⟩)

theorem check_whole {env : Env} (whole : env.Whole) (declaration : StructDecl) :
    Gives (declaration.check env)
      fun outcome => outcome.2.Whole ∧ ∃ layout, outcome.1 = .struct declaration.range layout := by
  refine .bind (collectMembers_whole whole.symbols _ _ _ nofun) fun members collected => ?_
  refine .bind (Env.register_gives _ _ _) fun _ ⟨more, added, registered⟩ => .pure ?_
  subst registered
  exact ⟨whole.withSymbols (whole.symbols.addStruct? (.struct _ collected) added), _, rfl⟩

end StructDecl

theorem AliasDecl.check_whole {env : Env} (whole : env.Whole) (declaration : AliasDecl) :
    Gives (declaration.check env) fun outcome => outcome.2.Whole ∧ ∃ ty, outcome.1 = .alias declaration.range ty := by
  refine .bind (declaration.type.resolve_whole whole.symbols) fun ty type => ?_
  refine .bind (Env.register_gives _ _ _) fun _ ⟨more, added, registered⟩ => .pure ?_
  subst registered
  exact ⟨whole.withSymbols (whole.symbols.addAlias? type added), ty, rfl⟩

theorem EnumDecl.check_whole {env after : Env} (whole : env.Whole) {declaration : EnumDecl} {typed : TypedDecl}
    (yields : Yields noIncident (declaration.check env) (typed, after)) :
    after.Whole ∧ ∃ enumeration, typed = .enumeration declaration.range enumeration := by
  simp only [EnumDecl.check, yields_bind, yields_pure, yields_lift] at yields
  obtain ⟨enumeration, -, _, ⟨rfl, quiet⟩, ⟨⟩⟩ := yields
  obtain ⟨more, added, registered⟩ := Env.register_gives _ _ _ quiet
  rw [registered]
  exact ⟨whole.withSymbols (whole.symbols.addEnum? added), enumeration, rfl⟩

def HeaderType.Given (type : HeaderType) : Prop := ∃ ty, type = .concrete ty ∧ ty.Whole

theorem HeaderType.Given.whole {type : HeaderType} (given : type.Given) : type.Whole := by
  obtain ⟨ty, rfl, whole⟩ := given
  rintro _ ⟨⟩
  exact whole

structure Header.Describes (header : Header) (declaration : HeaderDecl) : Prop where
  arity : header.parameters.length = declaration.parameters.length
  parameters : ∀ parameter ∈ header.parameters, parameter.type.Given
  returns : header.returns.Given

theorem Header.Describes.whole {header : Header} {declaration : HeaderDecl} (describes : header.Describes declaration) :
    header.Whole :=
  ⟨fun parameter member => (describes.parameters parameter member).whole, describes.returns.whole⟩

namespace HeaderDecl

variable {symbols : Symbols}

theorem resolveInHeader_given (whole : symbols.Whole) (ref : TypeRef) :
    Gives (ref.resolveInHeader symbols []) HeaderType.Given := by
  unfold TypeRef.resolveInHeader
  rw [if_neg (by simp)]
  exact .bind (ref.resolve_whole whole) fun ty type => .pure ⟨ty, rfl, type⟩

theorem collectParameters_given (whole : symbols.Whole) (node : NodeRef) (names : List String)
    (declarations : List ParameterDecl) :
    Gives (collectParameters symbols node [] names declarations)
      fun parameters => parameters.length = declarations.length ∧ ∀ parameter ∈ parameters, parameter.type.Given := by
  induction declarations generalizing names with
  | nil => exact .pure ⟨rfl, nofun⟩
  | cons declaration rest ih =>
    refine .after fun _ => .bind (resolveInHeader_given whole _) fun type given => ?_
    refine .bind (ih _) fun parameters ⟨arity, others⟩ => .pure ?_
    exact ⟨congrArg (· + 1) arity, List.forall_mem_cons.mpr ⟨given, others⟩⟩

theorem collect_describes (whole : symbols.Whole) {declaration : HeaderDecl} (plain : declaration.generics = []) :
    Gives (declaration.collect symbols) fun header => header.Describes declaration := by
  have closed : ∀ node, Gives (collectGenerics node declaration.generics) (· = []) := by
    intro node
    rw [plain]
    exact .pure rfl
  refine .bind (closed _) fun generics none => ?_
  subst none
  refine .bind (collectParameters_given whole _ _ _) fun parameters ⟨arity, given⟩ => ?_
  exact .bind (resolveInHeader_given whole _) fun returns result => .pure ⟨arity, given, result⟩

end HeaderDecl

/-- A function with one header, which leaves no type open. -/
def FunctionDecl.IsPlain (declaration : FunctionDecl) : Prop :=
  ∃ header, declaration.headers = [header] ∧ header.generics = []

structure Function.Describes (function : Function) (declaration : FunctionDecl) : Prop where
  name : function.name = declaration.name
  range : function.range = some declaration.range
  headers : ∃ written header, declaration.headers = [written] ∧ function.headers = [header] ∧ header.Describes written

/-- The name of a function stands for it, with the headers that are written. -/
def Symbols.Declares (symbols : Symbols) (declaration : FunctionDecl) : Prop :=
  ∃ function, symbols.function? declaration.name = some function ∧ function.Describes declaration
    ∧ (HeaderDecl.collectAll symbols declaration.headers).value = function.headers

namespace FunctionDecl

variable {env : Env} {declaration : FunctionDecl}

theorem collectAll_describes {symbols : Symbols} (whole : symbols.Whole) (plain : declaration.IsPlain) :
    Gives (HeaderDecl.collectAll symbols declaration.headers) fun headers =>
      ∃ written header, declaration.headers = [written] ∧ headers = [header] ∧ header.Describes written := by
  obtain ⟨written, single, closed⟩ := plain
  rw [single]
  refine .bind (HeaderDecl.collect_describes whole closed) fun header describes => ?_
  exact .pure ⟨written, header, rfl, rfl, describes⟩

/-- A function that nothing is reported about is registered under a name that was free, and nothing else changes. -/
theorem collectSignature_describes (whole : env.Whole) (plain : declaration.IsPlain) :
    Gives (declaration.collectSignature env) fun after => ∃ function more, function.Describes declaration
      ∧ (HeaderDecl.collectAll env.symbols declaration.headers).value = function.headers
      ∧ env.symbols.addFunction? function = some more ∧ after = { env with symbols := more } := by
  intro quiet
  simp only [collectSignature, within_bind] at quiet
  have described := collectAll_describes whole.symbols plain quiet.2.1
  obtain ⟨more, added, registered⟩ := Env.register_gives _ _ _ quiet.2.2
  exact ⟨_, more, ⟨rfl, rfl, described⟩, rfl, added, registered⟩

end FunctionDecl

theorem Symbols.Declares.registered? {symbols : Symbols} {declaration : FunctionDecl}
    (declares : symbols.Declares declaration) :
    ∃ function, declaration.registered? symbols = some function ∧ function.Describes declaration
      ∧ (HeaderDecl.collectAll symbols declaration.headers).value = function.headers := by
  obtain ⟨function, found, describes, headers⟩ := declares
  refine ⟨function, ?_, describes, headers⟩
  rw [FunctionDecl.registered?, found, Option.filter_some, if_pos (by simpa using describes.range)]

theorem Function.Describes.whole {function : Function} {declaration : FunctionDecl}
    (describes : function.Describes declaration) : ∀ header ∈ function.headers, header.Whole := by
  obtain ⟨written, header, -, single, inner⟩ := describes.headers
  rw [single]
  exact List.forall_mem_singleton.mpr inner.whole

theorem Symbols.Declares.addFunction? {symbols more : Symbols} {declaration : FunctionDecl} {function : Function}
    (declares : symbols.Declares declaration) (added : symbols.addFunction? function = some more) :
    more.Declares declaration := by
  obtain ⟨other, found, describes, headers⟩ := declares
  rw [HeaderDecl.collectAll_congr (typesAgree_of_addFunction? added)] at headers
  obtain ⟨free, rfl⟩ := addFunction?_eq_some added
  have different : function.name ≠ declaration.name := by
    intro same
    rw [same, found] at free
    cases free
  refine ⟨other, ?_, describes, headers⟩
  rw [Symbols.function?, List.find?_cons_of_neg (by simpa using different)]
  exact found

namespace Document

/-- After the signatures the name of each function stands for it, and names that stood for one before still do. -/
theorem collectSignatures_declares {declarations : List Decl}
    (plain : ∀ declaration ∈ declarations.filterMap Decl.function?, declaration.IsPlain) {env : Env}
    (whole : env.Whole) :
    Gives (collectSignatures env declarations) fun after => after.Whole
      ∧ (∀ declaration, env.symbols.Declares declaration → after.symbols.Declares declaration)
      ∧ ∀ declaration ∈ declarations.filterMap Decl.function?, after.symbols.Declares declaration := by
  induction declarations generalizing env with
  | nil => exact .pure ⟨whole, fun _ declares => declares, nofun⟩
  | cons declaration rest ih =>
    cases declaration with
    | function declaration =>
      obtain ⟨first, others⟩ := List.forall_mem_cons.mp plain
      refine .bind (declaration.collectSignature_describes whole first)
        fun _ ⟨function, more, describes, headers, added, same⟩ => ?_
      subst same
      have grown := whole.withSymbols (whole.symbols.addFunction? describes.whole added)
      have itself : more.Declares declaration := by
        rw [HeaderDecl.collectAll_congr (Symbols.typesAgree_of_addFunction? added)] at headers
        obtain ⟨-, rfl⟩ := Symbols.addFunction?_eq_some added
        refine ⟨function, ?_, describes, headers⟩
        rw [Symbols.function?, List.find?_cons_of_pos (by simpa using describes.name)]
      intro quiet
      obtain ⟨holds, kept, declared⟩ := ih others grown quiet
      refine ⟨holds, fun other declares => kept other (declares.addFunction? added), ?_⟩
      exact List.forall_mem_cons.mpr ⟨kept declaration itself, declared⟩
    | _ => exact ih plain whole

variable {document : Document} {allowed : Incident → Prop} {typed : TypedDocument} {after : Env}

/-- A function that its name stands for is in the document that comes out, and its body was checked on entry from what
is in force in the end. -/
theorem effect_entered (yields : Yields allowed (document.effect {}) (typed, after)) {declaration : FunctionDecl}
    (written : declaration ∈ document.functions) {function : Function}
    (registered : declaration.registered? after.symbols = some function) :
    ∃ inner body, declaration.entry after function = .ok inner
      ∧ Yields allowed (Stmt.checkBlock inner declaration.body) body
      ∧ .function declaration.range function body ∈ typed.declarations := by
  obtain ⟨source, listed, found⟩ := List.mem_filterMap.mp written
  cases source with
  | function source =>
    cases found
    obtain ⟨one, declared, checked⟩ := exists_of_forall₂ (effect_bodies yields) _ listed
    have ran := checked rfl
    simp only [Decl.check, yields_bind, yields_pure] at ran
    obtain ⟨_, itself, ⟨⟩⟩ := ran
    cases FunctionDecl.outcome_of_yields itself with
    | duplicate unregistered => cases registered.symm.trans unregistered
    | function other entered inside =>
      cases registered.symm.trans other
      exact ⟨_, _, entered, inside, declared⟩
  | _ => cases found

/-- A global is in the document that comes out, with the binding and the initializer that were found where the globals
before it are in force. What is in force in the end has its binding and those of the globals behind it besides. -/
theorem effect_initialized (yields : Yields allowed (document.effect {}) (typed, after)) {declaration : VariableDecl}
    (written : declaration ∈ document.globals) :
    ∃ before later binding initializer, (declaration.globalBinding before).value = (binding, initializer)
      ∧ after = before.adding (later ++ [binding])
      ∧ .variable ⟨declaration.range, binding, initializer⟩ ∈ typed.declarations := by
  have one {declaration : Decl} {env : Env} {facts : TypedDecl} {middle last : Env} (due : declaration.round = .globals)
      (checked : Yields allowed (declaration.check env) (facts, middle)) (leads : ∃ later, last = middle.adding later) :
      ∃ later, last = env.adding later := by
    cases declaration with
    | «variable» declaration =>
      obtain ⟨binding, initializer, -, -, declared⟩ := VariableDecl.checkGlobal_yields checked
      obtain ⟨later, rfl⟩ := leads
      exact ⟨later ++ [binding], by rw [Env.adding_append, Env.adding_of_declare declared]⟩
    | _ => cases due
  obtain ⟨source, listed, found⟩ := List.mem_filterMap.mp written
  cases source with
  | «variable» source =>
    cases found
    have globals := effect_leads (fun env last => ∃ later, last = env.adding later)
      (fun env => ⟨[], env.adding_nil.symm⟩) one yields
    obtain ⟨_, declared, checked⟩ := exists_of_forall₂ globals _ listed
    obtain ⟨before, middle, ran, later, rfl⟩ := checked rfl
    simp only [Decl.check, VariableDecl.checkGlobal, yields_bind, yields_pure, yields_lift, yields_of] at ran
    obtain ⟨_, ⟨bound, -⟩, _, declares, ⟨⟩⟩ := ran
    exact ⟨before, later, _, _, bound, by rw [Env.adding_append, Env.adding_of_declare declares], declared⟩
  | _ => cases found

end Document

/-!
Signatures that leave types open bring in no invalid ones either.
-/

namespace HeaderDecl

variable {symbols : Symbols} (whole : symbols.Whole)

include whole

theorem resolveInHeader_whole (generics : List Generic) (ref : TypeRef) :
    Gives (ref.resolveInHeader symbols generics) HeaderType.Whole := by
  unfold TypeRef.resolveInHeader
  split
  · exact .pure nofun
  · refine .bind (ref.resolve_whole whole) fun ty type => .pure ?_
    rintro _ ⟨⟩
    exact type

theorem collectParameters_whole (node : NodeRef) (generics : List Generic) (names : List String)
    (declarations : List ParameterDecl) :
    Gives (collectParameters symbols node generics names declarations)
      fun parameters => ∀ parameter ∈ parameters, parameter.type.Whole := by
  induction declarations generalizing names with
  | nil => exact .pure nofun
  | cons declaration rest ih =>
    refine .after fun _ => .bind (resolveInHeader_whole whole _ _) fun type first => ?_
    exact .bind (ih _) fun parameters others => .pure (List.forall_mem_cons.mpr ⟨first, others⟩)

theorem collectAll_whole (declarations : List HeaderDecl) :
    Gives (collectAll symbols declarations) fun headers => ∀ header ∈ headers, header.Whole := by
  induction declarations with
  | nil => exact .pure nofun
  | cons declaration rest ih =>
    have first : Gives (declaration.collect symbols) Header.Whole :=
      .after fun _ => .bind (collectParameters_whole whole _ _ _ _) fun parameters given =>
        .bind (resolveInHeader_whole whole _ _) fun returns result => .pure ⟨given, result⟩
    exact .bind first fun header inner => .bind ih fun headers others =>
      .pure (List.forall_mem_cons.mpr ⟨inner, others⟩)

end HeaderDecl

/-- What is in force stays whole as signatures are registered, also of functions that leave types open. -/
theorem Document.collectSignatures_whole {env : Env} (whole : env.symbols.Whole) (declarations : List Decl) :
    Gives (collectSignatures env declarations) fun after => after.symbols.Whole := by
  induction declarations generalizing env with
  | nil => exact .pure whole
  | cons declaration rest ih =>
    cases declaration with
    | function declaration =>
      have first : Gives (declaration.collectSignature env) fun after => after.symbols.Whole := by
        refine .after fun _ => .bind (HeaderDecl.collectAll_whole whole _) fun headers given => ?_
        intro quiet
        obtain ⟨more, added, registered⟩ := Env.register_gives _ _ _ quiet
        rw [registered]
        exact whole.addFunction? given added
      exact .bind first fun _ held => ih held
    | _ => exact ih whole

end ShaderCheck
