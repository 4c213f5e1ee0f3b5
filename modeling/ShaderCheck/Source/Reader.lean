import ShaderCheck.Json.Record
import ShaderCheck.Source.Decl

/-!
Documents read from JSON.

The readers of nested nodes count down the depth of the value at hand. Every node is an array or object, so a value of
depth `n` holds at most `n` nodes inside each other; a statement takes two steps, one for its tag and one for its
record.
-/

namespace ShaderCheck

open Json

namespace Span

def word? (json : Json) : Option UInt32 :=
  match json with
  | .number n => n.toNat?.bind fun value => if value < UInt32.size then some (UInt32.ofNat value) else none
  | _ => none

/-- A span is written as four numbers: the start and the end, each by line and column. -/
def ofJson? : Json → Option Span
  | .array [a, b, c, d] => do
    let startLine ← word? a
    let startColumn ← word? b
    let endLine ← word? c
    let endColumn ← word? d
    some ⟨⟨startLine, startColumn⟩, ⟨endLine, endColumn⟩⟩
  | _ => none

end Span

namespace TypeRef

def read : Nat → Json → Option TypeRef
  | 0, _ => none
  | depth + 1, json => do
    match ← json.record? ["range", "name", "generics"] with
    | [range, name, generics] =>
      some (.mk (← required Span.ofJson? range) (← required text? name)
        (← defaultList (read depth) generics))
    | _ => none

def ofJson? (json : Json) : Option TypeRef := read json.depth json

end TypeRef

namespace Expr

/-- The names of expressions, in the order that positions count them. -/
def variants : List String :=
  ["ArithmeticExpression", "BitOperationExpression", "ComparisonExpression", "LogicalExpression",
    "UnaryExpression", "AddressOfExpression", "PointerExpression", "ParenthesizedExpression",
    "VariableNameExpression", "LiteralValueExpression", "FunctionCallExpression",
    "IndexedValueExpression", "ValueDecompositionExpression", "ConversionExpression"]

def readBinary (family : OperatorFamily) (operand : Json → Option Expr) (json : Json) : Option Expr := do
  match ← json.record? ["range", "left", "operator", "right"] with
  | [range, left, operator, right] =>
    some (.binary family (← required Span.ofJson? range) (← required operand left)
      (← required text? operator) (← required operand right))
  | _ => none

def readNested (make : Span → Expr → Expr) (operand : Json → Option Expr) (json : Json) : Option Expr := do
  match ← json.record? ["range", "expression"] with
  | [range, inner] => some (make (← required Span.ofJson? range) (← required operand inner))
  | _ => none

def readCall (argument : Json → Option Expr) (json : Json) :
    Option (Span × String × List TypeRef × List Expr) := do
  match ← json.record? ["range", "name", "generics", "parameters"] with
  | [range, name, generics, parameters] =>
    some (← required Span.ofJson? range, ← required text? name,
      ← defaultList TypeRef.ofJson? generics, ← defaultList argument parameters)
  | _ => none

def read : Nat → Bool → Json → Option Expr
  | 0, _, _ => none
  | depth + 1, inner, json => do
    let operand := read depth true
    match ← json.variant? inner variants with
    | ("ArithmeticExpression", body) => readBinary .arithmetic operand body
    | ("BitOperationExpression", body) => readBinary .bitwise operand body
    | ("ComparisonExpression", body) => readBinary .comparison operand body
    | ("LogicalExpression", body) => readBinary .logical operand body
    | ("UnaryExpression", body) =>
      match ← body.record? ["range", "operator", "expression"] with
      | [range, operator, expression] =>
        some (.unary (← required Span.ofJson? range) (← required text? operator)
          (← required operand expression))
      | _ => none
    | ("AddressOfExpression", body) => readNested .addressOf operand body
    | ("PointerExpression", body) => readNested .dereference operand body
    | ("ParenthesizedExpression", body) => readNested .parenthesized operand body
    | ("VariableNameExpression", body) =>
      match ← body.record? ["range", "name"] with
      | [range, name] => some (.reference (← required Span.ofJson? range) (← required text? name))
      | _ => none
    | ("LiteralValueExpression", body) =>
      match ← body.record? ["range", "textValue"] with
      | [range, text] => some (.literal (← required Span.ofJson? range) (← required text? text))
      | _ => none
    | ("FunctionCallExpression", body) =>
      (readCall operand body).map fun (range, callee, generics, arguments) =>
        .call range callee generics arguments
    | ("IndexedValueExpression", body) =>
      match ← body.record? ["range", "value", "index"] with
      | [range, value, position] =>
        some (.index (← required Span.ofJson? range) (← required operand value)
          (← required operand position))
      | _ => none
    | ("ValueDecompositionExpression", body) =>
      match ← body.record? ["range", "value", "property"] with
      | [range, value, property] =>
        some (.member (← required Span.ofJson? range) (← required operand value)
          (← required text? property))
      | _ => none
    | ("ConversionExpression", body) =>
      match ← body.record? ["range", "target", "expression"] with
      | [range, target, expression] =>
        some (.conversion (← required Span.ofJson? range) (← required TypeRef.ofJson? target)
          (← required operand expression))
      | _ => none
    | _ => none

/-- An expression; `inner` tells whether it stands inside another variant. -/
def ofJson? (inner : Bool) (json : Json) : Option Expr := read json.depth inner json

end Expr

namespace VariableDecl

def ofJson? (inner : Bool) (json : Json) : Option VariableDecl := do
  match ← json.record? ["range", "declarationType", "name", "typeDeclaration", "expression"] with
  | [range, keyword, name, type, initializer] =>
    some ⟨← required Span.ofJson? range, ← required text? keyword, ← required text? name,
      ← optional TypeRef.ofJson? type, ← optional (Expr.ofJson? inner) initializer⟩
  | _ => none

end VariableDecl

namespace Stmt

def variants : List String :=
  ["BlockStatement", "IfStatement", "WhileStatement", "DoWhileStatement", "ForStatement",
    "SwitchStatement", "AssignmentStatement", "IncrementDecrementStatement",
    "VariableDeclarationStatement", "ReturnStatement", "BreakStatement", "ContinueStatement",
    "DiscardStatement", "FunctionCallStatement"]

def readWord (make : Span → Stmt) (json : Json) : Option Stmt := do
  match ← json.record? ["range"] with
  | [range] => (required Span.ofJson? range).map make
  | _ => none

def readLoop (make : Span → Expr → Block → Stmt) (block : Json → Option Block) (json : Json) :
    Option Stmt := do
  match ← json.record? ["range", "expression", "block"] with
  | [range, condition, body] =>
    some (make (← required Span.ofJson? range) (← required (Expr.ofJson? true) condition)
      (← required block body))
  | _ => none

mutual

def read : Nat → Bool → Json → Option Stmt
  | 0, _, _ => none
  | depth + 1, inner, json => do
    let expression := Expr.ofJson? true
    match ← json.variant? inner variants with
    | ("BlockStatement", body) => (readBlock depth true body).map .block
    | ("IfStatement", body) => (readBranch depth body).map .branch
    | ("WhileStatement", body) => readLoop .whileLoop (readBlock depth true) body
    | ("DoWhileStatement", body) => readLoop .doWhile (readBlock depth true) body
    | ("ForStatement", body) =>
      match ← body.record? ["range", "init", "expression", "update", "block"] with
      | [range, init, condition, update, body] =>
        some (.forLoop (← required Span.ofJson? range)
          (← optional (VariableDecl.ofJson? true) init) (← optional expression condition)
          (← optional (read depth true) update) (← required (readBlock depth true) body))
      | _ => none
    | ("SwitchStatement", body) =>
      match ← body.record? ["range", "expression", "cases", "default"] with
      | [range, selector, cases, fallback] =>
        some (.switch (← required Span.ofJson? range) (← required expression selector)
          (← defaultList (readCase depth) cases) (← optional (readBlock depth true) fallback))
      | _ => none
    | ("AssignmentStatement", body) =>
      match ← body.record? ["range", "operator", "variable", "expression"] with
      | [range, operator, target, value] =>
        some (.assignment (← required Span.ofJson? range) (← required text? operator)
          (← required expression target) (← required expression value))
      | _ => none
    | ("IncrementDecrementStatement", body) =>
      match ← body.record? ["range", "operator", "expression"] with
      | [range, operator, target] =>
        some (.step (← required Span.ofJson? range) (← required text? operator)
          (← required expression target))
      | _ => none
    | ("VariableDeclarationStatement", body) => (VariableDecl.ofJson? true body).map .variable
    | ("ReturnStatement", body) =>
      match ← body.record? ["range", "expression"] with
      | [range, value] =>
        some (.returning (← required Span.ofJson? range) (← optional expression value))
      | _ => none
    | ("BreakStatement", body) => readWord .breaking body
    | ("ContinueStatement", body) => readWord .continuing body
    | ("DiscardStatement", body) => readWord .discarding body
    | ("FunctionCallStatement", body) =>
      match ← body.record? ["range", "call"] with
      | [range, called] =>
        let range ← required Span.ofJson? range
        let (callRange, callee, generics, arguments) ← required (Expr.readCall expression) called
        some (.call range callRange callee generics arguments)
      | _ => none
    | _ => none
termination_by structural depth => depth

def readBlock : Nat → Bool → Json → Option Block
  | 0, _, _ => none
  | depth + 1, inner, json => do
    match ← json.record? ["range", "statements"] with
    | [range, statements] =>
      some (.mk (← required Span.ofJson? range) (← defaultList (read depth inner) statements))
    | _ => none
termination_by structural depth => depth

def readBranch : Nat → Json → Option Branch
  | 0, _ => none
  | depth + 1, json => do
    match ← json.record? ["range", "expression", "block", "elseBranch"] with
    | [range, condition, body, otherwise] =>
      let otherwise ← optional (readOtherwise depth) otherwise
      some (.mk (← required Span.ofJson? range) (← required (Expr.ofJson? true) condition)
        (← required (readBlock depth true) body) (otherwise.getD .nothing))
    | _ => none
termination_by structural depth => depth

def readOtherwise : Nat → Json → Option Otherwise
  | 0, _ => none
  | depth + 1, json => do
    match ← json.variant? true ["BlockStatement", "IfStatement"] with
    | ("BlockStatement", body) => (readBlock depth true body).map .block
    | ("IfStatement", body) => (readBranch depth body).map .branch
    | _ => none
termination_by structural depth => depth

def readCase : Nat → Json → Option Case
  | 0, _ => none
  | depth + 1, json => do
    match ← json.record? ["range", "expressions", "block"] with
    | [range, values, body] =>
      some (.mk (← required Span.ofJson? range)
        (← required (list (Expr.ofJson? true)) values) (← required (readBlock depth true) body))
    | _ => none
termination_by structural depth => depth

end

def ofJson? (inner : Bool) (json : Json) : Option Stmt := read (2 * json.depth) inner json

end Stmt

def Block.ofJson? (inner : Bool) (json : Json) : Option Block :=
  Stmt.readBlock (2 * json.depth) inner json

namespace GenericDecl

def ofJson? (json : Json) : Option GenericDecl := do
  match ← json.record? ["range", "name", "restrictions"] with
  | [range, name, restrictions] =>
    some ⟨← required Span.ofJson? range, ← required text? name,
      ← optional (list text?) restrictions⟩
  | _ => none

end GenericDecl

namespace ParameterDecl

def ofJson? (json : Json) : Option ParameterDecl := do
  match ← json.record? ["range", "name", "typeDeclaration"] with
  | [range, name, type] =>
    some ⟨← required Span.ofJson? range, ← required text? name, ← required TypeRef.ofJson? type⟩
  | _ => none

end ParameterDecl

namespace HeaderDecl

def ofJson? (json : Json) : Option HeaderDecl := do
  match ← json.record? ["range", "generics", "parameters", "returnType"] with
  | [range, generics, parameters, returnType] =>
    some ⟨← required Span.ofJson? range, ← defaultList GenericDecl.ofJson? generics,
      ← defaultList ParameterDecl.ofJson? parameters, ← required TypeRef.ofJson? returnType⟩
  | _ => none

end HeaderDecl

namespace FunctionDecl

def ofJson? (inner : Bool) (json : Json) : Option FunctionDecl := do
  match ← json.record? ["range", "name", "headers", "block"] with
  | [range, name, headers, body] =>
    some ⟨← required Span.ofJson? range, ← required text? name,
      ← required (list HeaderDecl.ofJson?) headers, ← required (Block.ofJson? inner) body⟩
  | _ => none

end FunctionDecl

namespace LiteralRef

def ofJson? (json : Json) : Option LiteralRef := do
  match ← json.record? ["range", "textValue"] with
  | [range, text] => some ⟨← required Span.ofJson? range, ← required text? text⟩
  | _ => none

end LiteralRef

namespace EnumMemberDecl

def ofJson? (json : Json) : Option EnumMemberDecl := do
  match ← json.record? ["range", "name", "value"] with
  | [range, name, value] =>
    some ⟨← required Span.ofJson? range, ← required text? name, ← optional LiteralRef.ofJson? value⟩
  | _ => none

end EnumMemberDecl

namespace EnumDecl

def ofJson? (json : Json) : Option EnumDecl := do
  match ← json.record? ["range", "name", "values"] with
  | [range, name, values] =>
    some ⟨← required Span.ofJson? range, ← required text? name,
      ← defaultList EnumMemberDecl.ofJson? values⟩
  | _ => none

end EnumDecl

namespace PropertyDecl

def ofJson? (json : Json) : Option PropertyDecl := do
  match ← json.record? ["range", "name", "typeDeclaration"] with
  | [range, name, type] =>
    some ⟨← required Span.ofJson? range, ← required text? name, ← required TypeRef.ofJson? type⟩
  | _ => none

end PropertyDecl

namespace StructDecl

def ofJson? (json : Json) : Option StructDecl := do
  match ← json.record? ["range", "name", "properties"] with
  | [range, name, properties] =>
    some ⟨← required Span.ofJson? range, ← required text? name,
      ← defaultList PropertyDecl.ofJson? properties⟩
  | _ => none

end StructDecl

namespace AliasDecl

def ofJson? (json : Json) : Option AliasDecl := do
  match ← json.record? ["range", "name", "typeDeclaration"] with
  | [range, name, type] =>
    some ⟨← required Span.ofJson? range, ← required text? name, ← required TypeRef.ofJson? type⟩
  | _ => none

end AliasDecl

namespace Decl

def variants : List String :=
  ["FunctionDeclaration", "EnumDeclaration", "StructDeclaration", "AliasDeclaration",
    "VariableDeclaration"]

def ofJson? (json : Json) : Option Decl := do
  match ← json.variant? false variants with
  | ("FunctionDeclaration", body) => (FunctionDecl.ofJson? true body).map .function
  | ("EnumDeclaration", body) => (EnumDecl.ofJson? body).map .enumeration
  | ("StructDeclaration", body) => (StructDecl.ofJson? body).map .struct
  | ("AliasDeclaration", body) => (AliasDecl.ofJson? body).map .alias
  | ("VariableDeclaration", body) => (VariableDecl.ofJson? true body).map .variable
  | _ => none

end Decl

namespace Document

def fieldNames : List String := ["range", "declarations"]

def ofJson? (json : Json) : Option Document := do
  match ← json.record? fieldNames with
  | [range, declarations] =>
    some ⟨← required Span.ofJson? range, ← defaultList Decl.ofJson? declarations⟩
  | _ => none

end Document

end ShaderCheck
