import ShaderCheck.Check.Decl

/-!
What a check reads of what is in force. Types are resolved by what the names of the symbols stand for, and expressions
besides by what the names in scope stand for. Where these agree, types and expressions come to the same.
-/

namespace ShaderCheck

structure Symbols.TypesAgree (a b : Symbols) : Prop where
  enums : ∀ name, a.enumeration? name = b.enumeration? name
  structs : ∀ name, a.struct? name = b.struct? name
  aliases : ∀ name, a.alias? name = b.alias? name

structure Symbols.Agree (a b : Symbols) : Prop extends a.TypesAgree b where
  functions : ∀ name, a.function? name = b.function? name

namespace Symbols

variable {a b c : Symbols}

theorem TypesAgree.type? (agree : a.TypesAgree b) (name : String) : a.type? name = b.type? name := by
  rw [Symbols.type?, Symbols.type?, agree.enums, agree.structs, agree.aliases]

theorem TypesAgree.hasTypeName (agree : a.TypesAgree b) (name : String) : a.hasTypeName name = b.hasTypeName name := by
  rw [Symbols.hasTypeName, Symbols.hasTypeName, agree.enums, agree.structs, agree.aliases]

theorem TypesAgree.symm (agree : a.TypesAgree b) : b.TypesAgree a :=
  ⟨fun name => (agree.enums name).symm, fun name => (agree.structs name).symm, fun name => (agree.aliases name).symm⟩

theorem TypesAgree.trans (first : a.TypesAgree b) (second : b.TypesAgree c) : a.TypesAgree c where
  enums name := (first.enums name).trans (second.enums name)
  structs name := (first.structs name).trans (second.structs name)
  aliases name := (first.aliases name).trans (second.aliases name)

theorem Agree.refl (symbols : Symbols) : Agree symbols symbols :=
  ⟨⟨fun _ => rfl, fun _ => rfl, fun _ => rfl⟩, fun _ => rfl⟩

theorem Agree.trans (first : a.Agree b) (second : b.Agree c) : a.Agree c where
  toTypesAgree := first.toTypesAgree.trans second.toTypesAgree
  functions name := (first.functions name).trans (second.functions name)

end Symbols

namespace TypeRef

variable {a b : Symbols}

theorem resolve_congr (agree : a.TypesAgree b) : (ref : TypeRef) → ref.resolve a = ref.resolve b
  | .mk range name arguments => by
    unfold resolve
    split
    case h_1 => rw [resolveName, resolveName, agree.type?]
    case h_2 => rfl
    case h_3 former head =>
      match arguments with
      | [argument] => exact congrArg (· >>= _) (resolve_congr agree argument)
      | [] => rfl
      | _ :: _ :: _ => rfl
termination_by structural ref => ref

theorem resolveAll_congr (agree : a.TypesAgree b) (refs : List TypeRef) : resolveAll a refs = resolveAll b refs := by
  induction refs with
  | nil => rfl
  | cons ref rest ih => rw [resolveAll, resolveAll, ref.resolve_congr agree, ih]

theorem resolveInHeader_congr (agree : a.TypesAgree b) (generics : List Generic) (ref : TypeRef) :
    ref.resolveInHeader a generics = ref.resolveInHeader b generics := by
  rw [resolveInHeader, resolveInHeader, ref.resolve_congr agree]

end TypeRef

structure Env.Agree (a b : Env) : Prop where
  symbols : a.symbols.Agree b.symbols
  values : ∀ name, a.lookup? name = b.lookup? name

namespace Expr

variable {a b : Env}

theorem checkReference_congr (agree : a.Agree b) (node : NodeRef) (name : String) :
    checkReference a node name = checkReference b node name := by
  rw [checkReference, checkReference, agree.values, agree.symbols.enums]

theorem checkCall_congr (agree : a.Agree b) (node : NodeRef) (callee : String) (generics : List TypeRef)
    (arguments : List Facts) :
    checkCall a node callee generics arguments = checkCall b node callee generics arguments := by
  rw [checkCall, checkCall, agree.symbols.functions, TypeRef.resolveAll_congr agree.symbols.toTypesAgree]

theorem checkMember_congr (agree : a.Agree b) (node : NodeRef) (value : Facts) (member : String) :
    checkMember a node value member = checkMember b node value member := by
  unfold checkMember
  simp only [agree.symbols.enums]

mutual

/-- An expression comes to the same wherever its names stand for the same. -/
theorem check_congr (agree : a.Agree b) : (e : Expr) → check a e = check b e
  | .binary family range left operator right => by
    rw [check, check, check_congr agree left, check_congr agree right]
  | .unary range operator operand => by rw [check, check, check_congr agree operand]
  | .addressOf range operand => by rw [check, check, check_congr agree operand]
  | .dereference range operand => by rw [check, check, check_congr agree operand]
  | .parenthesized range inner => by rw [check, check, check_congr agree inner]
  | .reference range name => by rw [check, check, checkReference_congr agree]
  | .literal range text => rfl
  | .call range callee generics arguments => by
    rw [check, check, checkAll_congr agree arguments]
    simp only [checkCall_congr agree]
  | .index range value position => by rw [check, check, check_congr agree value, check_congr agree position]
  | .member range value name => by
    rw [check, check, check_congr agree value]
    simp only [checkMember_congr agree]
  | .conversion range target operand => by
    rw [check, check, check_congr agree operand, target.resolve_congr agree.symbols.toTypesAgree]
termination_by structural e => e

theorem checkAll_congr (agree : a.Agree b) : (es : List Expr) → checkAll a es = checkAll b es
  | [] => rfl
  | e :: rest => by rw [checkAll, checkAll, check_congr agree e, checkAll_congr agree rest]
termination_by structural es => es

end

theorem checkOptional_congr (agree : a.Agree b) (e : Option Expr) : checkOptional a e = checkOptional b e := by
  cases e with
  | none => rfl
  | some e => rw [checkOptional, checkOptional, check_congr agree e]

end Expr

namespace VariableDecl

variable {a b : Env}

theorem declaredType_congr (agree : a.Agree b) (type : Option TypeRef) : declaredType a type = declaredType b type := by
  cases type with
  | none => rfl
  | some ref => rw [declaredType, declaredType, ref.resolve_congr agree.symbols.toTypesAgree]

theorem localBinding_congr (agree : a.Agree b) (declaration : VariableDecl) :
    declaration.localBinding a = declaration.localBinding b := by
  unfold localBinding
  simp only [Expr.checkOptional_congr agree, declaredType_congr agree]

theorem globalBinding_congr (agree : a.Agree b) (declaration : VariableDecl) :
    declaration.globalBinding a = declaration.globalBinding b := by
  unfold globalBinding
  simp only [Expr.checkOptional_congr agree, declaredType_congr agree]

end VariableDecl

theorem Stmt.checkCaseValues_congr {a b : Env} (agree : a.Agree b) (seen : List Int64) (values : List Expr) :
    checkCaseValues a seen values = checkCaseValues b seen values := by
  induction values generalizing seen with
  | nil => rfl
  | cons value rest ih =>
    rw [checkCaseValues, checkCaseValues, value.check_congr agree]
    simp only [ih]

theorem StructDecl.collectMembers_congr {a b : Symbols} (agree : a.TypesAgree b) (node : NodeRef) (struct : String)
    (members : List (String × Ty)) (properties : List PropertyDecl) :
    collectMembers a node struct members properties = collectMembers b node struct members properties := by
  induction properties generalizing members with
  | nil => rfl
  | cons property rest ih =>
    rw [collectMembers, collectMembers, collectMember, collectMember, property.type.resolve_congr agree]
    simp only [ih]

namespace HeaderDecl

variable {a b : Symbols}

theorem collectParameters_congr (agree : a.TypesAgree b) (node : NodeRef) (generics : List Generic)
    (names : List String) (parameters : List ParameterDecl) :
    collectParameters a node generics names parameters = collectParameters b node generics names parameters := by
  induction parameters generalizing names with
  | nil => rfl
  | cons parameter rest ih =>
    rw [collectParameters, collectParameters, parameter.type.resolveInHeader_congr agree, ih]

theorem collect_congr (agree : a.TypesAgree b) (declaration : HeaderDecl) :
    declaration.collect a = declaration.collect b := by
  unfold collect
  simp only [collectParameters_congr agree, TypeRef.resolveInHeader_congr agree]

theorem collectAll_congr (agree : a.TypesAgree b) (declarations : List HeaderDecl) :
    collectAll a declarations = collectAll b declarations := by
  induction declarations with
  | nil => rfl
  | cons declaration rest ih => rw [collectAll, collectAll, declaration.collect_congr agree, ih]

end HeaderDecl

end ShaderCheck
