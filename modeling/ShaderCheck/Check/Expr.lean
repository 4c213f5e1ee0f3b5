import ShaderCheck.Check.Operand
import ShaderCheck.Check.TypeRef
import ShaderCheck.Literal
import ShaderCheck.Symbol.Overload
import ShaderCheck.Ty.Traits
import ShaderCheck.Typed.Expr

/-!
The facts of expressions. Checking an expression changes nothing: it reads the scopes and symbols, and notes what it
finds.
-/

namespace ShaderCheck

/-- An operator by its token. An unknown one is reported, and another taken for it. -/
def operatorOr {α : Type} (node : NodeRef) (family token : String) (found : Option α) (fallback : α) :
    Noted α :=
  match found with
  | some operator => pure operator
  | none => do
    Noted.report node (.unknownOperator family token)
    return fallback

namespace Expr

def checkBinary (family : OperatorFamily) (node : NodeRef) (token : String) (left right : Facts) :
    Noted (BinaryOp × Facts) := do
  let constness := left.constness.meet right.constness
  match family with
  | .arithmetic =>
    let op ← operatorOr node "arithmetic" token (ArithmeticOp.ofToken? token) .plus
    let ty ← (op.resultType left.ty right.ty).report node
    return (.arithmetic op, .computed ty constness)
  | .bitwise =>
    let op ← operatorOr node "bit" token (BitwiseOp.ofToken? token) .and
    let ty ← (op.resultType left.ty left.storage right.ty).report node
    return (.bitwise op, .computed ty constness)
  | .comparison =>
    let op ← operatorOr node "comparison" token (ComparisonOp.ofToken? token) .equal
    let ty ← (op.resultType left.ty right.ty).report node
    return (.comparison op, .computed ty constness)
  | .logical =>
    let op ← operatorOr node "logical" token (LogicalOp.ofToken? token) .and
    let ty ← (LogicalOp.resultType token left.ty right.ty).report node
    return (.logical op, .computed ty constness)

def foldUnary (op : UnaryOp) (operand : Facts) : Option Constant :=
  match op, operand.value, operand.ty.numericKind? with
  | .negate, some value, some _ => value.negate?
  | .bitwiseNot, some value, some kind => value.bitNot? kind
  | _, _, _ => none

def checkUnary (node : NodeRef) (token : String) (operand : Facts) : Noted (UnaryOp × Facts) := do
  let op ← operatorOr node "unary" token (UnaryOp.ofToken? token) .negate
  Noted.expect (op.accepts operand.ty) node (.unaryOperand token operand.ty)
  return (op, { Facts.computed operand.ty operand.constness with value := foldUnary op operand })

def checkAddressOf (node : NodeRef) (operand : Facts) : Noted Facts :=
  if operand.ty.isInvalid then pure .unresolved
  else if !operand.storage then do
    Noted.report node .addressOfValue
    return .unresolved
  else if !operand.ty.traits.storable then do
    Noted.report node (.notPointable operand.ty)
    return .unresolved
  else pure (.computed (.pointer operand.ty operand.space) .variable)

def checkDereference (node : NodeRef) (operand : Facts) : Noted Facts :=
  match operand.ty with
  | .pointer referent space =>
    pure { ty := referent, constness := .variable, storage := true, space }
  | .invalid => pure .unresolved
  | other => do
    Noted.report node (.notAPointer other)
    return .unresolved

/-- A name: a value in scope, or an enum as a namespace. -/
def checkReference (env : Env) (node : NodeRef) (name : String) : Noted Facts :=
  match env.lookup? name with
  | some binding => do
    Noted.use name
    return {
      ty := binding.ty
      constness := binding.constness
      value := binding.value
      storage := binding.constness = .variable
      space := binding.space }
  | none =>
    match env.symbols.enumeration? name with
    | some enumeration => do
      Noted.use name
      return { Facts.computed enumeration.ty .constant with enumName := true }
    | none => do
      Noted.report node (.unknownName name)
      return .unresolved

def checkLiteral (node : NodeRef) (text : String) : Noted Facts :=
  match Literal.read? text with
  | some (value, ty) => pure { Facts.computed ty .constant with value := some value }
  | none => do
    Noted.report node (.invalidLiteral text)
    return .computed .invalid .constant

def unresolvedCall : CallTarget × Facts := ({}, .unresolved)

/-- The call of a known function. Arguments and generics that are invalid were reported already. -/
def checkCallOf (function : Function) (node : NodeRef) (callee : String) (explicit : List Ty)
    (arguments : List Facts) : Noted (CallTarget × Facts) :=
  if arguments.any (·.ty.isInvalid) || explicit.any Ty.isInvalid then pure unresolvedCall
  else
    match Overload.resolve? function (arguments.map fun facts => ⟨facts.ty, facts.space⟩) explicit with
    | none => do
      Noted.report node (.noOverload callee (arguments.map (·.ty)))
      return unresolvedCall
    | some resolution => do
      let target : CallTarget := ⟨some resolution.header, resolution.generics, resolution.parameters⟩
      match resolution.returns with
      | .resolved ty => return (target, .computed ty .variable)
      | .unbound generic =>
        Noted.report node (.genericNotInferred generic callee)
        return (target, .computed .invalid .variable)

def checkCall (env : Env) (node : NodeRef) (callee : String) (generics : List TypeRef)
    (arguments : List Facts) : Noted (CallTarget × Facts) := do
  Noted.use callee
  match env.symbols.function? callee with
  | none =>
    Noted.report node (.unknownFunction callee)
    return unresolvedCall
  | some function =>
    let explicit ← TypeRef.resolveAll env.symbols generics
    checkCallOf function node callee explicit arguments

def checkIndex (node : NodeRef) (value index : Facts) : Noted Facts := do
  Noted.expect (index.ty.isInvalid || index.ty.isIntegral) node (.nonIntegerIndex index.ty)
  let constness := value.constness.meet index.constness
  match value.ty with
  | .invalid => return .unresolved
  | .vector _ element => return { ty := element, constness, storage := value.storage, space := value.space }
  | .matrix rows _ element =>
    return { ty := .vector rows element, constness, storage := value.storage, space := value.space }
  | other =>
    Noted.report node (.notIndexable other)
    return .unresolved

def swizzleLetters : List (List Char) := [['x', 'y', 'z', 'w'], ['r', 'g', 'b', 'a']]

/-- How many components a swizzle such as `xyz` picks out of a vector, at most four and all with letters of one
set. -/
def swizzle? (member : String) (dimension : Nat) : Option Nat :=
  let letters := member.toList
  if letters.isEmpty || letters.length > 4 then none
  else if swizzleLetters.any fun set => letters.all (set.take dimension).contains then
    some letters.length
  else none

def checkMember (env : Env) (node : NodeRef) (value : Facts) (member : String) : Noted Facts :=
  match value.ty with
  | .invalid => pure .unresolved
  | .struct name members =>
    match members.lookup member with
    | some ty =>
      pure { ty, constness := value.constness, storage := value.storage, space := value.space }
    | none => do
      Noted.report node (.unknownStructMember name member)
      return .unresolved
  | .vector dimension element =>
    match swizzle? member dimension with
    | some 1 =>
      pure { ty := element, constness := value.constness, storage := value.storage, space := value.space }
    | some length => pure (.computed (.vector length element) value.constness)
    | none => do
      Noted.report node (.invalidSwizzle member value.ty)
      return .unresolved
  | .enumeration name underlying =>
    if value.enumName then
      match (env.symbols.enumeration? name).bind (·.member? member) with
      | some constant => pure { Facts.computed value.ty .constant with value := some constant }
      | none => do
        Noted.report node (.unknownEnumMember name member)
        return .unresolved
    else do
      Noted.report node (.noMembers (.enumeration name underlying) member)
      return .unresolved
  | other => do
    Noted.report node (.noMembers other member)
    return .unresolved

def checkConversion (node : NodeRef) (operand : Facts) (target : Ty) : Noted Facts := do
  Noted.expect (operand.ty.isInvalid || target.isInvalid || operand.ty.convertsTo target) node
    (.noConversion operand.ty target)
  return .computed target operand.constness

mutual

def check (env : Env) : Expr → Noted TypedExpr
  | .binary family range left operator right => do
    let left ← check env left
    let right ← check env right
    let (operator, facts) ←
      checkBinary family ⟨family.nodeKind, range⟩ operator left.facts right.facts
    return .binary range facts operator left right
  | .unary range operator operand => do
    let operand ← check env operand
    let (operator, facts) ← checkUnary ⟨.unary, range⟩ operator operand.facts
    return .unary range facts operator operand
  | .addressOf range operand => do
    let operand ← check env operand
    let facts ← checkAddressOf ⟨.addressOf, range⟩ operand.facts
    return .addressOf range facts operand
  | .dereference range operand => do
    let operand ← check env operand
    let facts ← checkDereference ⟨.dereference, range⟩ operand.facts
    return .dereference range facts operand
  | .parenthesized range inner => do
    let inner ← check env inner
    return .parenthesized range inner.facts inner
  | .reference range name => do
    let facts ← checkReference env ⟨.reference, range⟩ name
    return .reference range facts name
  | .literal range text => do
    let facts ← checkLiteral ⟨.literal, range⟩ text
    return .literal range facts text
  | .call range callee generics arguments => do
    let arguments ← checkAll env arguments
    let (target, facts) ←
      checkCall env ⟨.call, range⟩ callee generics (arguments.map TypedExpr.facts)
    return .call range facts callee target arguments
  | .index range value position => do
    let value ← check env value
    let position ← check env position
    let facts ← checkIndex ⟨.index, range⟩ value.facts position.facts
    return .index range facts value position
  | .member range value name => do
    let value ← check env value
    let facts ← checkMember env ⟨.member, range⟩ value.facts name
    return .member range facts value name
  | .conversion range target operand => do
    let operand ← check env operand
    let target ← target.resolve env.symbols
    let facts ← checkConversion ⟨.conversion, range⟩ operand.facts target
    return .conversion range facts operand
termination_by structural e => e

def checkAll (env : Env) : List Expr → Noted (List TypedExpr)
  | [] => pure []
  | e :: rest => do
    let e ← check env e
    let rest ← checkAll env rest
    return e :: rest
termination_by structural es => es

end

def checkOptional (env : Env) : Option Expr → Noted (Option TypedExpr)
  | none => pure none
  | some e => do
    let e ← check env e
    return some e

end Expr

end ShaderCheck
