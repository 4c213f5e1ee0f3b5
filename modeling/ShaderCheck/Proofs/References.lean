import ShaderCheck.Proofs.Attribution
import ShaderCheck.Proofs.ScopeFrame
import ShaderCheck.Proofs.Tally

/-!
The names that a document uses. They are read off the text: the names of values and functions in its expressions, and
those of its written types that the language does not have itself. If nothing is reported, a check has noted each of
them as often as it is written, and no others.
-/

namespace ShaderCheck

open Noted Attempt

namespace Noted

variable {α β : Type}

theorem used_pure (a : α) : (pure a : Noted α).notes.used = [] := rfl

theorem used_bind (step : Noted α) (next : α → Noted β) :
    (step >>= next).notes.used = step.notes.used ++ (next step.value).notes.used := rfl

theorem used_report (node : NodeRef) (cause : Cause) : (report node cause).notes.used = [] := rfl

theorem used_expect (condition : Bool) (node : NodeRef) (cause : Cause) :
    (expect condition node cause).notes.used = [] :=
  expect_remarks.unused

theorem Quiet.not_report {node : NodeRef} {cause : Cause} {next : Unit → Noted α}
    (quiet : Quiet (report node cause >>= next)) : False :=
  quiet _ List.mem_cons_self

end Noted

namespace TypeRef

def languageNames : List String :=
  ["bool", "i32", "u32", "f32", "f16", "string", "void", "vec2", "vec3", "vec4", "mat2x2", "mat2x3", "mat2x4", "mat3x2",
    "mat3x3", "mat3x4", "mat4x2", "mat4x3", "mat4x4", "ptr"]

mutual

/-- The names in a written type that the language does not have itself, at any depth. -/
def references : TypeRef → List String
  | .mk _ name arguments => (if name ∈ languageNames then [] else [name]) ++ referencesOfAll arguments
termination_by structural ref => ref

def referencesOfAll : List TypeRef → List String
  | [] => []
  | ref :: rest => references ref ++ referencesOfAll rest
termination_by structural refs => refs

end

/-- The names in the type of a parameter or result, where the bare name of a generic stands for that generic. -/
def referencesInHeader (generics : List GenericDecl) (ref : TypeRef) : List String :=
  if ref.arguments.isEmpty && generics.any (·.name = ref.name) then [] else ref.references

end TypeRef

namespace Expr

mutual

def references : Expr → List String
  | .binary _ _ left _ right => references left ++ references right
  | .unary _ _ operand | .addressOf _ operand | .dereference _ operand | .parenthesized _ operand => references operand
  | .reference _ name => [name]
  | .literal .. => []
  | .call _ callee generics arguments => referencesOfAll arguments ++ callee :: TypeRef.referencesOfAll generics
  | .index _ value position => references value ++ references position
  | .member _ value _ => references value
  | .conversion _ target operand => references operand ++ target.references
termination_by structural e => e

def referencesOfAll : List Expr → List String
  | [] => []
  | e :: rest => references e ++ referencesOfAll rest
termination_by structural es => es

end

end Expr

def VariableDecl.references (declaration : VariableDecl) : List String :=
  declaration.initializer.toList.flatMap Expr.references ++ declaration.type.toList.flatMap TypeRef.references

/-- The names that a statement itself holds, not those of the statements inside it. -/
def Stmt.references : Stmt → List String
  | .branch (.mk _ condition _ _) | .whileLoop _ condition _ | .doWhile _ condition _ => condition.references
  | .forLoop _ _ condition _ _ => condition.toList.flatMap Expr.references
  | .switch _ selector cases _ =>
    selector.references ++ cases.flatMap fun | .mk _ values _ => Expr.referencesOfAll values
  | .assignment _ _ target value => target.references ++ value.references
  | .step _ _ target => target.references
  | .variable declaration => declaration.references
  | .returning _ value => value.toList.flatMap Expr.references
  | .call _ callRange callee generics arguments => (Expr.call callRange callee generics arguments).references
  | .block _ | .breaking _ | .continuing _ | .discarding _ => []

def HeaderDecl.references (declaration : HeaderDecl) : List String :=
  declaration.parameters.flatMap (·.type.referencesInHeader declaration.generics)
    ++ declaration.returnType.referencesInHeader declaration.generics

def Decl.references : Decl → List String
  | .function declaration =>
    declaration.headers.flatMap HeaderDecl.references
      ++ (Stmt.block declaration.body).nodes.flatMap Stmt.references
  | .enumeration _ => []
  | .struct declaration => declaration.properties.flatMap (·.type.references)
  | .alias declaration => declaration.type.references
  | .variable declaration => declaration.references

namespace TypeHead

theorem matrix?_eq_some {letters : List Char} {former : TypeFormer} (found : matrix? letters = some former) :
    String.ofList letters ∈ TypeRef.languageNames := by
  unfold matrix? at found
  split at found
  case h_1 c r =>
    have sizes {letter : Char} {size : Nat} (known : size? letter = some size) :
        letter = '2' ∨ letter = '3' ∨ letter = '4' := by
      unfold size? at known
      split at known <;> simp_all
    obtain ⟨columns, wide, found⟩ := Option.bind_eq_some_iff.mp found
    obtain ⟨rows, high, -⟩ := Option.bind_eq_some_iff.mp found
    rcases sizes wide with rfl | rfl | rfl <;> rcases sizes high with rfl | rfl | rfl <;> decide
  case h_2 => cases found

/-- A name stands for something by itself exactly if it is one of the language. -/
theorem ofName?_isSome_iff (name : String) : (ofName? name).isSome ↔ name ∈ TypeRef.languageNames := by
  constructor
  · intro known
    unfold ofName? at known
    split at known
    case h_12 =>
      obtain ⟨head, found⟩ := Option.isSome_iff_exists.mp known
      obtain ⟨former, found, -⟩ := Option.map_eq_some_iff.mp found
      simpa using matrix?_eq_some found
    all_goals decide
  · have all : ∀ name ∈ TypeRef.languageNames, (ofName? name).isSome := by decide
    exact all name

end TypeHead

namespace TypeRef

variable {symbols : Symbols}

/-- A type that nothing is wrong with has each of its names used once. -/
theorem resolve_used : (ref : TypeRef) → Quiet (ref.resolve symbols) → (ref.resolve symbols).notes.used = ref.references
  | .mk range name arguments, quiet => by
    have known := TypeHead.ofName?_isSome_iff name
    rw [resolve] at quiet ⊢
    rw [references]
    cases head : TypeHead.ofName? name with
    | none =>
      rw [head] at known quiet
      have foreign : name ∉ languageNames := by simpa using known.symm
      rw [if_neg foreign]
      dsimp only [resolveName] at quiet ⊢
      cases found : symbols.type? name with
      | none =>
        rw [found] at quiet
        exact quiet.not_report.elim
      | some ty =>
        rw [found] at quiet
        cases arguments with
        | nil => rfl
        | cons => exact quiet.not_report.elim
    | some head' =>
      rw [head] at known quiet
      rw [if_pos (known.mp rfl), List.nil_append]
      cases head' with
      | plain ty =>
        cases arguments with
        | nil => rfl
        | cons => exact quiet.not_report.elim
      | former former =>
        obtain _ | ⟨argument, _ | _⟩ := arguments
        · exact quiet.not_report.elim
        · have inner := resolve_used argument ((within_bind _ _).mp quiet).1
          simp only [used_bind, apply_remarks.unused, inner, referencesOfAll]
        · exact quiet.not_report.elim
termination_by structural ref => ref

theorem resolveAll_used {refs : List TypeRef} (quiet : Quiet (resolveAll symbols refs)) :
    (resolveAll symbols refs).notes.used = referencesOfAll refs := by
  induction refs with
  | nil => rfl
  | cons ref rest ih =>
    simp only [resolveAll, within_bind] at quiet
    simp only [resolveAll, referencesOfAll, used_bind, used_pure, List.append_nil, ref.resolve_used quiet.1,
      ih quiet.2.1]

end TypeRef

namespace Expr

variable {env : Env}

theorem checkReference_used {node : NodeRef} {name : String} (quiet : Quiet (checkReference env node name)) :
    (checkReference env node name).notes.used = [name] := by
  unfold checkReference at *
  cases found : env.lookup? name with
  | some binding => rfl
  | none =>
    cases named : env.symbols.enumeration? name with
    | some enumeration => rfl
    | none =>
      rw [found] at quiet
      dsimp only at quiet
      rw [named] at quiet
      exact quiet.not_report.elim

theorem checkCall_used {node : NodeRef} {callee : String} {generics : List TypeRef} {arguments : List Facts}
    (quiet : Quiet (checkCall env node callee generics arguments)) :
    (checkCall env node callee generics arguments).notes.used = callee :: TypeRef.referencesOfAll generics := by
  unfold checkCall at *
  obtain ⟨-, quiet⟩ := (within_bind _ _).mp quiet
  cases found : env.symbols.function? callee with
  | none =>
    rw [found] at quiet
    exact (Quiet.not_report quiet).elim
  | some function =>
    rw [found] at quiet
    have explicit := TypeRef.resolveAll_used ((within_bind _ _).mp quiet).1
    simp only [used_bind, explicit, checkCallOf_remarks.unused, List.append_nil]
    rfl

mutual

/-- An expression that nothing is wrong with has each of its names used as often as it is written. -/
theorem check_used : (e : Expr) → Quiet (e.check env) → (e.check env).notes.used = e.references
  | .binary _ _ left _ right, quiet => by
    simp only [check, within_bind] at quiet
    simp only [check, references, used_bind, used_pure, List.append_nil, check_used left quiet.1,
      check_used right quiet.2.1, checkBinary_remarks.unused]
  | .unary _ _ operand, quiet => by
    simp only [check, within_bind] at quiet
    simp only [check, references, used_bind, used_pure, List.append_nil, check_used operand quiet.1,
      checkUnary_remarks.unused]
  | .addressOf _ operand, quiet => by
    simp only [check, within_bind] at quiet
    simp only [check, references, used_bind, used_pure, List.append_nil, check_used operand quiet.1,
      checkAddressOf_remarks.unused]
  | .dereference _ operand, quiet => by
    simp only [check, within_bind] at quiet
    simp only [check, references, used_bind, used_pure, List.append_nil, check_used operand quiet.1,
      checkDereference_remarks.unused]
  | .parenthesized _ inner, quiet => by
    simp only [check, within_bind] at quiet
    simp only [check, references, used_bind, used_pure, List.append_nil, check_used inner quiet.1]
  | .reference _ name, quiet => by
    simp only [check, within_bind] at quiet
    simp only [check, references, used_bind, used_pure, List.append_nil, checkReference_used quiet.1]
  | .literal _ _, _ => by
    simp only [check, references, used_bind, used_pure, List.append_nil, checkLiteral_remarks.unused]
  | .call _ _ _ arguments, quiet => by
    simp only [check, within_bind] at quiet
    simp only [check, references, used_bind, used_pure, List.append_nil, checkAll_used arguments quiet.1,
      checkCall_used quiet.2.1]
  | .index _ value position, quiet => by
    simp only [check, within_bind] at quiet
    simp only [check, references, used_bind, used_pure, List.append_nil, check_used value quiet.1,
      check_used position quiet.2.1, checkIndex_remarks.unused]
  | .member _ value _, quiet => by
    simp only [check, within_bind] at quiet
    simp only [check, references, used_bind, used_pure, List.append_nil, check_used value quiet.1,
      checkMember_remarks.unused]
  | .conversion _ target operand, quiet => by
    simp only [check, within_bind] at quiet
    simp only [check, references, used_bind, used_pure, List.append_nil, check_used operand quiet.1,
      target.resolve_used quiet.2.1, checkConversion_remarks.unused]
termination_by structural e => e

theorem checkAll_used : (es : List Expr) → Quiet (checkAll env es) → (checkAll env es).notes.used = referencesOfAll es
  | [], _ => rfl
  | e :: rest, quiet => by
    simp only [checkAll, within_bind] at quiet
    simp only [checkAll, referencesOfAll, used_bind, used_pure, List.append_nil, check_used e quiet.1,
      checkAll_used rest quiet.2.1]
termination_by structural es => es

end

theorem checkOptional_used {e : Option Expr} (quiet : Quiet (checkOptional env e)) :
    (checkOptional env e).notes.used = e.toList.flatMap references := by
  cases e with
  | none => rfl
  | some e =>
    simp only [checkOptional, within_bind] at quiet
    simp only [checkOptional, used_bind, used_pure, List.append_nil, e.check_used quiet.1]
    simp

end Expr

namespace VariableDecl

variable {env : Env} {declaration : VariableDecl}

theorem declaredType_used {type : Option TypeRef} (quiet : Quiet (declaredType env type)) :
    (declaredType env type).notes.used = type.toList.flatMap TypeRef.references := by
  cases type with
  | none => rfl
  | some ref =>
    simp only [declaredType, within_bind] at quiet
    simp only [declaredType, used_bind, used_pure, List.append_nil, ref.resolve_used quiet.1]
    simp

theorem localBinding_used (quiet : Quiet (declaration.localBinding env)) :
    (declaration.localBinding env).notes.used = declaration.references := by
  unfold localBinding at *
  split
  case h_1 constness known =>
    simp only [known, within_bind] at quiet
    obtain ⟨-, given, written, -⟩ := quiet
    simp only [used_bind, used_pure, List.nil_append, Expr.checkOptional_used given, declaredType_used written,
      references]
    split <;> simp only [used_bind, used_pure, used_expect, checkConstantInitializer_remarks.unused,
      bindingType_remarks.unused, List.append_nil]
  case h_2 unknown =>
    simp only [unknown] at quiet
    exact quiet.not_report.elim

theorem globalBinding_used (quiet : Quiet (declaration.globalBinding env)) :
    (declaration.globalBinding env).notes.used = declaration.references := by
  unfold globalBinding at *
  split
  case h_1 kind known =>
    simp only [known, within_bind] at quiet
    obtain ⟨-, given, written, -⟩ := quiet
    simp only [used_bind, used_pure, List.nil_append, Expr.checkOptional_used given, declaredType_used written,
      references]
    split <;> simp only [used_bind, used_pure, externalType_remarks.unused, internalType_remarks.unused,
      checkPlacement_remarks.unused, List.append_nil]
  case h_2 unknown =>
    simp only [unknown] at quiet
    exact quiet.not_report.elim

end VariableDecl

namespace Stmt

variable {env : Env} {node : NodeRef}

theorem test_used {construct : String} {condition : Expr} (quiet : Quiet (test env node construct condition)) :
    (test env node construct condition).notes.used = condition.references := by
  obtain ⟨quiet, -⟩ := (within_bind _ _).mp quiet
  simp only [test, used_bind, condition.check_used quiet, checkCondition_remarks.unused, List.append_nil]

theorem testFor_used {condition : Option Expr} {update : Option Stmt}
    (quiet : Quiet (testFor env node condition update)) :
    (testFor env node condition update).notes.used = condition.toList.flatMap Expr.references := by
  obtain ⟨-, quiet⟩ := (within_bind _ _).mp quiet
  unfold testFor
  rw [used_bind, used_expect]
  cases condition with
  | none => rfl
  | some condition => simpa using test_used quiet

theorem select_used {selector : Expr} (quiet : Quiet (select env node selector)) :
    (select env node selector).notes.used = selector.references := by
  obtain ⟨quiet, -⟩ := (within_bind _ _).mp quiet
  simp only [select, used_bind, selector.check_used quiet, used_expect, List.append_nil]

theorem assign_used {token : String} {target value : Expr} (quiet : Quiet (assign env node token target value)) :
    (assign env node token target value).notes.used = target.references ++ value.references := by
  simp only [assign, within_bind] at quiet
  obtain ⟨stored, given, -⟩ := quiet
  simp only [assign, used_bind, target.check_used stored, value.check_used given, checkAssignment_remarks.unused,
    List.append_nil]

theorem stepTarget_used {token : String} {target : Expr} (quiet : Quiet (stepTarget env node token target)) :
    (stepTarget env node token target).notes.used = target.references := by
  obtain ⟨quiet, -⟩ := (within_bind _ _).mp quiet
  simp only [stepTarget, used_bind, target.check_used quiet, checkStep_remarks.unused, List.append_nil]

theorem giveBack_used {value : Option Expr} (quiet : Quiet (giveBack env node value)) :
    (giveBack env node value).notes.used = value.toList.flatMap Expr.references := by
  obtain ⟨quiet, -⟩ := (within_bind _ _).mp quiet
  simp only [giveBack, used_bind, Expr.checkOptional_used quiet, checkReturn_remarks.unused, List.append_nil]

theorem checkCaseValues_used {seen : List Int64} {values : List Expr}
    (quiet : Quiet (checkCaseValues env seen values)) :
    (checkCaseValues env seen values).notes.used = Expr.referencesOfAll values := by
  induction values generalizing seen with
  | nil => rfl
  | cons value rest ih =>
    simp only [checkCaseValues, within_bind] at quiet
    obtain ⟨first, -, others, -⟩ := quiet
    simp only [checkCaseValues, Expr.referencesOfAll, used_bind, used_pure, value.check_used first,
      checkCaseValue_remarks.unused, ih others, List.nil_append, List.append_nil]

theorem CaseNotes.used {cases : List Case} {noted : Notes} (values : CaseNotes noIncident env cases noted) :
    noted.used = cases.flatMap fun | .mk _ values _ => Expr.referencesOfAll values := by
  induction values with
  | nil => rfl
  | cons within _ ih => exact congrArg₂ (· ++ ·) (checkCaseValues_used within) ih

/-- A statement that nothing is wrong with uses on its own account the names that it holds itself. -/
theorem Own.used {s : Stmt} {typed : TypedStmt} {noted : Notes} (own : Own noIncident env s typed noted) :
    noted.used = s.references := by
  cases own with
  | block => rfl
  | branch within | whileLoop within | doWhile within => exact test_used within
  | forLoop within => exact testFor_used within
  | switch within inside => exact congrArg₂ (· ++ ·) (select_used within) inside.used
  | assignment within => exact assign_used within
  | step within => exact stepTarget_used within
  | «variable» within => exact VariableDecl.localBinding_used within
  | returning within => exact giveBack_used within
  | breaking | continuing | discarding => exact used_expect _ _ _
  | call within => exact Expr.check_used _ within

theorem weighs_references (name : String) :
    Weighs noIncident (fun _ _ => True) (Tally.ofUses name) (fun one => one.2.references.count name) fun _ => 0 where
  loops _ _ := trivial
  switches _ _ := trivial
  inherits _ _ := trivial
  declares _ _ := trivial
  own _ own := congrArg (List.count name) own.used

end Stmt

namespace HeaderDecl

variable {symbols : Symbols} {node : NodeRef}

theorem any_collectGenerics (generics : List GenericDecl) (name : String) :
    (collectGenerics node generics).value.any (·.name = name) = generics.any (·.name = name) := by
  induction generics with
  | nil => rfl
  | cons generic rest ih =>
    rw [collectGenerics]
    split <;> exact congrArg (decide (generic.name = name) || ·) ih

theorem resolveInHeader_used {generics : List GenericDecl} {ref : TypeRef}
    (quiet : Quiet (ref.resolveInHeader symbols (collectGenerics node generics).value)) :
    (ref.resolveInHeader symbols (collectGenerics node generics).value).notes.used
      = ref.referencesInHeader generics := by
  unfold TypeRef.resolveInHeader TypeRef.referencesInHeader at *
  rw [any_collectGenerics] at *
  split
  · rfl
  case isFalse other =>
    rw [if_neg other] at quiet
    simp only [used_bind, used_pure, ref.resolve_used ((within_bind _ _).mp quiet).1, List.append_nil]

theorem collectParameters_used {generics : List GenericDecl} {names : List String} {parameters : List ParameterDecl}
    (quiet : Quiet (collectParameters symbols node (collectGenerics node generics).value names parameters)) :
    (collectParameters symbols node (collectGenerics node generics).value names parameters).notes.used
      = parameters.flatMap (·.type.referencesInHeader generics) := by
  induction parameters generalizing names with
  | nil => rfl
  | cons parameter rest ih =>
    simp only [collectParameters, within_bind] at quiet
    obtain ⟨-, first, others, -⟩ := quiet
    simp only [collectParameters, used_bind, used_pure, used_expect, resolveInHeader_used first, ih others,
      List.flatMap_cons, List.nil_append, List.append_nil]

theorem collect_used {declaration : HeaderDecl} (quiet : Quiet (declaration.collect symbols)) :
    (declaration.collect symbols).notes.used = declaration.references := by
  simp only [collect, within_bind] at quiet
  obtain ⟨-, parameters, returns, -⟩ := quiet
  simp only [collect, references, used_bind, used_pure, collectGenerics_remarks.unused,
    collectParameters_used parameters, resolveInHeader_used returns, List.nil_append, List.append_nil]

theorem collectAll_used {headers : List HeaderDecl} (quiet : Quiet (collectAll symbols headers)) :
    (collectAll symbols headers).notes.used = headers.flatMap references := by
  induction headers with
  | nil => rfl
  | cons header rest ih =>
    simp only [collectAll, within_bind] at quiet
    obtain ⟨first, others, -⟩ := quiet
    simp only [collectAll, used_bind, used_pure, collect_used first, ih others, List.flatMap_cons, List.append_nil]

end HeaderDecl

namespace StructDecl

theorem collectMembers_used {symbols : Symbols} {node : NodeRef} {struct : String} {members : List (String × Ty)}
    {properties : List PropertyDecl} (quiet : Quiet (collectMembers symbols node struct members properties)) :
    (collectMembers symbols node struct members properties).notes.used = properties.flatMap (·.type.references) := by
  induction properties generalizing members with
  | nil => rfl
  | cons property rest ih =>
    simp only [collectMembers, collectMember, within_bind] at quiet
    obtain ⟨⟨first, -⟩, others⟩ := quiet
    simp only [collectMembers, collectMember, used_bind, property.type.resolve_used first, List.flatMap_cons]
    rw [ih others]
    split <;> simp only [used_bind, used_pure, used_report, used_expect, List.append_nil]

theorem check_used {env : Env} {declaration : StructDecl} (quiet : Quiet (declaration.check env)) :
    (declaration.check env).notes.used = declaration.properties.flatMap (·.type.references) := by
  simp only [check, within_bind] at quiet
  obtain ⟨members, -⟩ := quiet
  simp only [check, used_bind, used_pure, collectMembers_used members, Env.register_remarks.unused, List.append_nil]

end StructDecl

theorem AliasDecl.check_used {env : Env} {declaration : AliasDecl} (quiet : Quiet (declaration.check env)) :
    (declaration.check env).notes.used = declaration.type.references := by
  simp only [check, within_bind] at quiet
  obtain ⟨type, -⟩ := quiet
  simp only [check, used_bind, used_pure, declaration.type.resolve_used type, Env.register_remarks.unused,
    List.append_nil]

namespace FunctionDecl

variable {env : Env} {declaration : FunctionDecl}

theorem collectSignature_used (quiet : Quiet (declaration.collectSignature env)) :
    (declaration.collectSignature env).notes.used = declaration.headers.flatMap HeaderDecl.references := by
  simp only [collectSignature, within_bind] at quiet
  obtain ⟨-, headers, -⟩ := quiet
  simp only [collectSignature, used_bind, used_expect, HeaderDecl.collectAll_used headers,
    Env.register_remarks.unused, List.nil_append, List.append_nil]

/-- A signature that nothing is wrong with is registered. -/
theorem collectSignature_registers (quiet : Quiet (declaration.collectSignature env)) :
    ((declaration.collectSignature env).value.symbols.function? declaration.name).map (·.range)
      = some (some declaration.range) := by
  simp only [collectSignature, within_bind] at quiet
  obtain ⟨-, -, registers⟩ := quiet
  obtain ⟨more, added, after⟩ := Env.register_gives _ _ _ registers
  obtain ⟨-, rfl⟩ := Symbols.addFunction?_eq_some added
  simp only [collectSignature, value_bind, after, Symbols.function?]
  rw [List.find?_cons_of_pos (by simp)]
  rfl

end FunctionDecl

namespace Document

theorem collectSignatures_used {env : Env} {declarations : List Decl}
    (quiet : Quiet (collectSignatures env declarations)) :
    (collectSignatures env declarations).notes.used
      = (declarations.filterMap Decl.function?).flatMap fun declaration =>
        declaration.headers.flatMap HeaderDecl.references := by
  induction declarations generalizing env with
  | nil => rfl
  | cons declaration rest ih =>
    cases declaration with
    | function declaration =>
      obtain ⟨first, others⟩ := (within_bind _ _).mp quiet
      rw [collectSignatures, used_bind, FunctionDecl.collectSignature_used first, ih others]
      rfl
    | _ => exact ih quiet

/-- If nothing is wrong with the signatures, each function is registered under its name. -/
theorem collectSignatures_registers {env : Env} {declarations : List Decl}
    (quiet : Quiet (collectSignatures env declarations)) : ∀ declaration ∈ declarations.filterMap Decl.function?,
      (declaration.registered? (collectSignatures env declarations).value.symbols).isSome := by
  induction declarations generalizing env with
  | nil => nofun
  | cons declaration rest ih =>
    cases declaration with
    | function declaration =>
      obtain ⟨first, others⟩ := (within_bind _ _).mp quiet
      refine List.forall_mem_cons.mpr ⟨?_, ih others⟩
      -- Those behind it leave the name as it is.
      refine registered?_isSome.mpr (((collectSignatures_adds _ rest).2.2 declaration.name).trans ?_)
      rw [FunctionDecl.collectSignature_registers first]
      rfl
    | _ => exact ih quiet

end Document

namespace Decl

variable {name : String} {env after : Env} {typed : TypedDecl} {noted : Notes}

/-- The names in a declaration, without the headers of a function: those are read before. -/
def ownReferences : Decl → List String
  | .function declaration => (Stmt.block declaration.body).nodes.flatMap Stmt.references
  | declaration => declaration.references

theorem count_body {declaration : FunctionDecl} (registered : (declaration.registered? env.symbols).isSome)
    (told : declaration.Told noIncident env typed noted) :
    (Tally.ofUses name).count noted = (ownReferences (.function declaration)).count name := by
  cases told with
  | duplicate unregistered =>
    rw [unregistered] at registered
    cases registered
  | function _ _ inside =>
    have inBody : (Stmt.placedInBlock declaration.body .nothing).map (fun one => one.2.references.count name)
        = (Stmt.nodesOfBlock declaration.body).map fun s => s.references.count name := by
      rw [← Stmt.map_placedInBlock declaration.body .nothing, List.map_map]
      rfl
    have counted : (Tally.ofUses name).count noted
        = Stmt.weight (fun one => one.2.references.count name) (fun _ => 0)
          (Stmt.placedInBlock declaration.body .nothing) _ :=
      (Stmt.weighs_references name).checkBlock declaration.body trivial inside
    rw [counted, Stmt.weight, inBody, ownReferences, List.count_flatMap]
    simp
    rfl

/-- What a declaration uses of its own, which for a function is what its body does. -/
theorem count_own {declaration : Decl}
    (registered : ∀ function, declaration = .function function → (function.registered? env.symbols).isSome)
    (tells : Tells noIncident (declaration.check env) (typed, after) noted) :
    (Tally.ofUses name).count noted = declaration.ownReferences.count name := by
  cases told_of_tells tells with
  | function told => exact count_body (registered _ rfl) told
  | enumeration => exact congrArg (List.count name) EnumDecl.check_remarks.unused
  | struct within => exact congrArg (List.count name) (StructDecl.check_used within)
  | «alias» within => exact congrArg (List.count name) (AliasDecl.check_used within)
  | «variable» within => exact congrArg (List.count name) (VariableDecl.globalBinding_used within)

/-- The headers come apart from what else is in the declarations. -/
theorem sum_references (declarations : List Decl) (name : String) :
    (declarations.map fun declaration => declaration.ownReferences.count name).sum
      + ((declarations.filterMap function?).flatMap fun declaration =>
        declaration.headers.flatMap HeaderDecl.references).count name
      = (declarations.flatMap references).count name := by
  induction declarations with
  | nil => rfl
  | cons declaration rest ih =>
    rw [List.map_cons, List.sum_cons, List.flatMap_cons, List.count_append, ← ih]
    cases declaration with
    | function declaration =>
      have listed : (Decl.function declaration :: rest).filterMap function?
          = declaration :: rest.filterMap function? := rfl
      rw [listed, List.flatMap_cons, List.count_append, references, List.count_append, ownReferences]
      omega
    | _ => exact Nat.add_assoc _ _ _

end Decl

namespace Document

/-- If nothing is wrong with a document, each name is used as often as it is written. -/
theorem effect_uses {document : Document} {typed : TypedDocument} {after : Env}
    (yields : Yields noIncident (document.effect {}) (typed, after)) (name : String) :
    (Attempt.notes (document.effect {})).used.count name
      = (document.declarations.flatMap Decl.references).count name := by
  let settled (symbols : Symbols) : Prop :=
    ∀ declaration ∈ document.functions, (declaration.registered? symbols).isSome
  have registered : settled after.symbols :=
    (effect_symbols (fun _ quiet => collectSignatures_registers quiet) yields).1
  rw [← Decl.sum_references]
  refine @effect_counts noIncident (.ofUses name) (fun declaration => declaration.ownReferences.count name) _ _ _ _
    (fun declaration _ other _ _ _ _ tells => ?_)
    (fun quiet => congrArg (List.count name) (collectSignatures_used quiet))
    (fun declaration listed _ _ _ tells => ?_) yields
  · refine declaration.count_own (fun function same => ?_) tells
    subst same
    exact (other rfl).elim
  · refine declaration.count_own (fun function same => ?_) tells
    subst same
    exact registered function (List.mem_filterMap.mpr ⟨_, listed, rfl⟩)

/-- The names that a document uses, if nothing is reported, are exactly those written in it that the language does not
have itself: of values, enums and functions, and of types except where a header names one of its generics. -/
theorem check_usedNames (document : Document) {typed : TypedDocument} {context : Context}
    (ran : document.check.run {} = (.ok typed, context)) (quiet : context.incidents = []) (name : String) :
    name ∈ context.usedNames ↔ ∃ declaration ∈ document.declarations, name ∈ declaration.references := by
  have yields : Yields noIncident (document.effect {}) (typed, context.env) := by
    refine document.check_does.yields ran ?_
    rw [quiet]
    exact List.forall_mem_nil _
  have noted : context.notes = Attempt.notes (document.effect {}) := document.check_does.noted ran
  rw [Context.mem_usedNames, noted, ← List.count_pos_iff, effect_uses yields name, List.count_pos_iff, List.mem_flatMap]

/-- Names of every sort: in members, under pointers, of a generic in its header, of an alias, of functions and of
values. -/
def writing : Document :=
  let span (line : UInt32) : Span := ⟨⟨line, 1⟩, ⟨line, 9⟩⟩
  let type (line : UInt32) (name : String) : TypeRef := .mk (span line) name []
  let name (line : UInt32) (text : String) : Expr := .reference (span line) text
  let generic : HeaderDecl :=
    ⟨span 5, [⟨span 5, "N", none⟩], [⟨span 5, "x", type 5 "N"⟩, ⟨span 5, "to", type 5 "T"⟩], type 5 "N"⟩
  let plain : HeaderDecl := ⟨span 6, [], [⟨span 6, "idle", type 6 "i32"⟩], type 6 "void"⟩
  { range := span 1
    declarations := [
      .enumeration ⟨span 1, "E", [⟨span 1, "A", none⟩]⟩,
      .struct ⟨span 2, "S", [⟨span 2, "kind", type 2 "E"⟩, ⟨span 2, "place", .mk (span 2) "vec2" [type 2 "f32"]⟩]⟩,
      .alias ⟨span 3, "T", .mk (span 3) "ptr" [type 3 "S"]⟩,
      .variable ⟨span 4, "private", "s", some (type 4 "S"), none⟩,
      .function ⟨span 5, "f", [generic], .mk (span 5) [.returning (span 5) (some (name 5 "x"))]⟩,
      .function ⟨span 6, "g", [plain], .mk (span 6) [
        .variable ⟨span 7, "let", "p", none, some (.addressOf (span 7) (name 7 "s"))⟩,
        .call (span 8) (span 8) "f" [type 8 "E"] [.member (span 8) (name 8 "E") "A", name 8 "p"]]⟩] }

theorem writing_usedNames :
    ∃ typed context, writing.check.run {} = (.ok typed, context) ∧ context.incidents = []
      ∧ ∀ name, name ∈ context.usedNames ↔ name ∈ ["E", "S", "T", "f", "p", "s", "x"] := by
  have ends : (writing.check.run {}).1.toOption.isSome = true := by decide +kernel
  have quiet : (writing.check.run {}).2.incidents = [] := by decide +kernel
  have once : (∀ name ∈ writing.declarations.flatMap Decl.references, name ∈ ["E", "S", "T", "f", "p", "s", "x"])
      ∧ ∀ name ∈ ["E", "S", "T", "f", "p", "s", "x"], name ∈ writing.declarations.flatMap Decl.references := by
    decide +kernel
  cases ran : writing.check.run {} with
  | mk result context =>
    rw [ran] at ends quiet
    cases result with
    | error => cases ends
    | ok typed =>
      refine ⟨typed, context, rfl, quiet, fun name => ?_⟩
      have same := check_usedNames writing ran quiet name
      rw [← List.mem_flatMap] at same
      exact same.trans ⟨once.1 name, once.2 name⟩

end Document

end ShaderCheck
