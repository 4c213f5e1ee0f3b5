import ShaderCheck.Check.Stmt
import ShaderCheck.Typed.Decl

/-!
The facts of declarations. Each takes what is in force and gives what is in force after it.
-/

namespace ShaderCheck

namespace EnumDecl

structure Collected where
  members : List (String × Constant) := []
  /-- The type of the members, once there is one. -/
  underlying : Option Ty := none
  /-- The number of the next member that is written without a value. -/
  next : Int64 := 0
  deriving DecidableEq

def memberValue (node : NodeRef) (next : Int64) (member : EnumMemberDecl) : Noted (Option Constant) :=
  match member.value with
  | none => pure (some (.integer next))
  | some literal =>
    match Literal.read? literal.text with
    | some (.integer value, _) => pure (some (.integer value))
    | some (.string value, _) => pure (some (.string value))
    | _ => do
      Noted.report node (.enumMemberValue member.name)
      return none

def valueType : Constant → Ty
  | .string _ => .string
  | _ => .i32

def numberAfter (next : Int64) : Constant → Attempt Int64
  | .integer value => if value = Int64.maxValue then throw .numberingOverflow else pure (value + 1)
  | _ => pure next

/-- Adds a member to those before it. A member of another type than theirs, or with a name of theirs, is
left out. -/
def collectMember (node : NodeRef) (enumeration : String) (collected : Collected)
    (member : EnumMemberDecl) : Attempt Collected := do
  match ← memberValue node collected.next member with
  | none => return collected
  | some value =>
    if collected.underlying.any (· ≠ valueType value) then
      Noted.report node (.mixedEnum enumeration member.name)
      return collected
    else
      let next ← numberAfter collected.next value
      let counted := { collected with underlying := some (valueType value), next }
      if collected.members.any (·.1 = member.name) then
        Noted.report node (.repeatedEnumMember enumeration member.name)
        return counted
      else return { counted with members := collected.members ++ [(member.name, value)] }

def collectMembers (node : NodeRef) (enumeration : String) (collected : Collected) :
    List EnumMemberDecl → Attempt Collected
  | [] => pure collected
  | member :: rest => do
    let collected ← collectMember node enumeration collected member
    collectMembers node enumeration collected rest

def collect (declaration : EnumDecl) : Attempt Enumeration := do
  let node : NodeRef := ⟨.enumDeclaration, declaration.range⟩
  let collected ← collectMembers node declaration.name {} declaration.members
  Noted.expect (!declaration.members.isEmpty) node (.emptyEnum declaration.name)
  return ⟨declaration.name, collected.underlying.getD .i32, collected.members⟩

end EnumDecl

def Env.register (env : Env) (node : NodeRef) (taken : Cause) (symbols : Option Symbols) : Noted Env :=
  match symbols with
  | some symbols => pure { env with symbols }
  | none => do
    Noted.report node taken
    return env

namespace EnumDecl

def check (env : Env) (declaration : EnumDecl) : Attempt (TypedDecl × Env) := do
  let enumeration ← declaration.collect
  let env ← env.register ⟨.enumDeclaration, declaration.range⟩ (.typeNameTaken declaration.name)
    (env.symbols.addEnum? enumeration)
  return (.enumeration declaration.range enumeration, env)

end EnumDecl

namespace StructDecl

def collectMember (symbols : Symbols) (node : NodeRef) (struct : String) (members : List (String × Ty))
    (property : PropertyDecl) : Noted (List (String × Ty)) := do
  let ty ← property.type.resolve symbols
  if members.any (·.1 = property.name) then
    Noted.report node (.repeatedStructMember struct property.name)
    return members
  else
    Noted.expect (ty.isInvalid || ty.traits.storable) node
      (.memberNotStorable ty struct property.name)
    return members ++ [(property.name, ty)]

def collectMembers (symbols : Symbols) (node : NodeRef) (struct : String)
    (members : List (String × Ty)) : List PropertyDecl → Noted (List (String × Ty))
  | [] => pure members
  | property :: rest => do
    let members ← collectMember symbols node struct members property
    collectMembers symbols node struct members rest

def check (env : Env) (declaration : StructDecl) : Noted (TypedDecl × Env) := do
  let node : NodeRef := ⟨.structDeclaration, declaration.range⟩
  let members ← collectMembers env.symbols node declaration.name [] declaration.properties
  let layout : Layout := ⟨declaration.name, members⟩
  let env ← env.register node (.typeNameTaken declaration.name) (env.symbols.addStruct? layout)
  return (.struct declaration.range layout, env)

end StructDecl

namespace AliasDecl

def check (env : Env) (declaration : AliasDecl) : Noted (TypedDecl × Env) := do
  let ty ← declaration.type.resolve env.symbols
  let env ← env.register ⟨.aliasDeclaration, declaration.range⟩ (.typeNameTaken declaration.name)
    (env.symbols.addAlias? declaration.name ty)
  return (.alias declaration.range ty, env)

end AliasDecl

namespace HeaderDecl

def collectTags (node : NodeRef) (generic : String) : List String → Noted (List Tag)
  | [] => pure []
  | word :: rest =>
    match Tag.ofName? word with
    | some tag => do
      let tags ← collectTags node generic rest
      return tag :: tags
    | none => do
      Noted.report node (.unknownRestriction word generic)
      collectTags node generic rest

def collectGenerics (node : NodeRef) : List GenericDecl → Noted (List Generic)
  | [] => pure []
  | generic :: rest => do
    let restrictions ← match generic.restrictions with
      | none => pure none
      | some words => do
        let tags ← collectTags node generic.name words
        pure (some tags)
    let generics ← collectGenerics node rest
    return ⟨generic.name, restrictions⟩ :: generics

def collectParameters (symbols : Symbols) (node : NodeRef) (generics : List Generic)
    (names : List String) : List ParameterDecl → Noted (List Parameter)
  | [] => pure []
  | parameter :: rest => do
    Noted.expect (!names.contains parameter.name) node (.repeatedParameter parameter.name)
    let type ← parameter.type.resolveInHeader symbols generics
    let parameters ←
      collectParameters symbols node generics (parameter.name :: names) rest
    return ⟨parameter.name, type⟩ :: parameters

def collect (symbols : Symbols) (declaration : HeaderDecl) : Noted Header := do
  let node : NodeRef := ⟨.functionHeader, declaration.range⟩
  let generics ← collectGenerics node declaration.generics
  let parameters ← collectParameters symbols node generics [] declaration.parameters
  let returns ← declaration.returnType.resolveInHeader symbols generics
  return ⟨generics, parameters, returns⟩

def collectAll (symbols : Symbols) : List HeaderDecl → Noted (List Header)
  | [] => pure []
  | declaration :: rest => do
    let header ← declaration.collect symbols
    let headers ← collectAll symbols rest
    return header :: headers

end HeaderDecl

namespace FunctionDecl

def collectSignature (env : Env) (declaration : FunctionDecl) : Noted Env := do
  let node : NodeRef := ⟨.functionDeclaration, declaration.range⟩
  Noted.expect (!declaration.headers.isEmpty) node (.missingHeader declaration.name)
  let headers ← HeaderDecl.collectAll env.symbols declaration.headers
  env.register node (.functionNameTaken declaration.name)
    (env.symbols.addFunction? ⟨declaration.name, headers, some declaration.range⟩)

/-- The function that a declaration registered. Another one may have its name. -/
def registered? (symbols : Symbols) (declaration : FunctionDecl) : Option Function :=
  (symbols.function? declaration.name).filter (·.range = some declaration.range)

/-- The type of a parameter in the body. Generic parameters, and those that the headers differ in, are left
open: they are invalid, so that nothing about them is reported. -/
def parameterType (function : Function) (position : Nat) : Ty :=
  let types : List (Option HeaderType) := function.headers.map (·.parameterType? position)
  match types with
  | some (.concrete ty) :: others =>
    if others.all (· = some (.concrete ty)) then ty else .invalid
  | _ => .invalid

/-- Declares the parameters from a position on. Of two with one name the first is declared. -/
def declareParameters (function : Function) (env : Env) : Nat → List ParameterDecl → Except Fault Env
  | _, [] => .ok env
  | position, parameter :: rest => do
    if (env.local? parameter.name).isSome then declareParameters function env (position + 1) rest
    else
      let env ← env.declare
        ⟨parameter.name, parameterType function position, .variable, .function, none⟩
      declareParameters function env (position + 1) rest

def bodyParameters (declaration : FunctionDecl) : List ParameterDecl :=
  match declaration.headers with
  | [] => []
  | header :: _ => header.parameters

def check (env : Env) (declaration : FunctionDecl) : Attempt TypedDecl :=
  match declaration.registered? env.symbols with
  | none => pure (.duplicate declaration.range declaration.body.range)
  | some function => do
    let owner := ScopeOwner.function ⟨.functionDeclaration, declaration.range⟩ function
    let inner ← Attempt.of (env.openScope .function owner)
    let inner ← Attempt.of (declareParameters function inner 0 declaration.bodyParameters)
    let body ← Stmt.checkBlock inner declaration.body
    return .function declaration.range function body

end FunctionDecl

namespace VariableDecl

def globalKind? : String → Option (Constness × AddressSpace)
  | "const" => some (.constant, .privateSpace)
  | "private" => some (.variable, .privateSpace)
  | "workgroup" => some (.variable, .workgroup)
  | "uniform" => some (.variable, .uniform)
  | "storage" => some (.variable, .storage)
  | "handle" => some (.variable, .handle)
  | _ => none

def isExternal : AddressSpace → Bool
  | .workgroup | .uniform | .storage | .handle => true
  | .function | .privateSpace => false

def externalType (node : NodeRef) (name : String) (space : AddressSpace) (declared : Option Ty)
    (initializer : Option Facts) : Noted Ty := do
  Noted.expect initializer.isNone node (.initializedExternal name space)
  match declared with
  | some ty => return ty
  | none =>
    Noted.report node (.untypedExternal name space)
    return .invalid

def internalType (node : NodeRef) (name : String) (constness : Constness) (declared : Option Ty)
    (initializer : Option Facts) : Noted Ty := do
  match constness with
  | .constant => checkConstantInitializer node name initializer
  | .variable => pure ()
  bindingType node name constness declared initializer

def checkPlacement (node : NodeRef) (name : String) (constness : Constness) (space : AddressSpace)
    (ty : Ty) : Noted Unit :=
  match space with
  | .uniform | .storage =>
    Noted.expect (ty.isInvalid || ty.traits.hostShareable) node (.notHostShareable ty name)
  | _ =>
    Noted.expect (ty.isInvalid || constness = .constant || ty.traits.storable) node
      (.notStorable ty name)

def globalBinding (env : Env) (declaration : VariableDecl) :
    Noted (Binding × Option TypedExpr) := do
  let node : NodeRef := ⟨.globalVariable, declaration.range⟩
  let (constness, space) ← match globalKind? declaration.keyword with
    | some kind => pure kind
    | none => do
      Noted.report node (.unknownGlobalKeyword declaration.keyword)
      pure (.variable, .privateSpace)
  let initializer ← Expr.checkOptional env declaration.initializer
  let facts := initializer.map TypedExpr.facts
  let declared ← declaredType env declaration.type
  let ty ←
    if isExternal space then externalType node declaration.name space declared facts
    else internalType node declaration.name constness declared facts
  checkPlacement node declaration.name constness space ty
  return (⟨declaration.name, ty, constness, space, keptValue constness facts⟩, initializer)

def checkGlobal (env : Env) (declaration : VariableDecl) : Attempt (TypedDecl × Env) := do
  let (binding, initializer) ← globalBinding env declaration
  let env ← Attempt.of (env.declare binding)
  return (.variable ⟨declaration.range, binding, initializer⟩, env)

end VariableDecl

namespace Decl

def check (env : Env) : Decl → Attempt (TypedDecl × Env)
  | .function declaration => do
    let typed ← declaration.check env
    return (typed, env)
  | .enumeration declaration => declaration.check env
  | .struct declaration => do
    let (typed, env) ← declaration.check env
    return (typed, env)
  | .alias declaration => do
    let (typed, env) ← declaration.check env
    return (typed, env)
  | .variable declaration => declaration.checkGlobal env

end Decl

end ShaderCheck
