/-!
The operators of the language and the tokens they are written with.
-/

namespace ShaderCheck

inductive ArithmeticOp where
  | plus
  | minus
  | multiply
  | divide
  | modulo
  deriving DecidableEq, Inhabited

namespace ArithmeticOp

def token : ArithmeticOp → String
  | .plus => "+"
  | .minus => "-"
  | .multiply => "*"
  | .divide => "/"
  | .modulo => "%"

def ofToken? : String → Option ArithmeticOp
  | "+" => some .plus
  | "-" => some .minus
  | "*" => some .multiply
  | "/" => some .divide
  | "%" => some .modulo
  | _ => none

end ArithmeticOp

inductive BitwiseOp where
  | and
  | or
  | xor
  | shiftLeft
  | shiftRight
  deriving DecidableEq, Inhabited

namespace BitwiseOp

def token : BitwiseOp → String
  | .and => "&"
  | .or => "|"
  | .xor => "^"
  | .shiftLeft => "<<"
  | .shiftRight => ">>"

def ofToken? : String → Option BitwiseOp
  | "&" => some .and
  | "|" => some .or
  | "^" => some .xor
  | "<<" => some .shiftLeft
  | ">>" => some .shiftRight
  | _ => none

def isShift : BitwiseOp → Bool
  | .shiftLeft | .shiftRight => true
  | .and | .or | .xor => false

end BitwiseOp

inductive ComparisonOp where
  | equal
  | notEqual
  | less
  | lessEqual
  | greater
  | greaterEqual
  deriving DecidableEq, Inhabited

namespace ComparisonOp

def token : ComparisonOp → String
  | .equal => "=="
  | .notEqual => "!="
  | .less => "<"
  | .lessEqual => "<="
  | .greater => ">"
  | .greaterEqual => ">="

def ofToken? : String → Option ComparisonOp
  | "==" => some .equal
  | "!=" => some .notEqual
  | "<" => some .less
  | "<=" => some .lessEqual
  | ">" => some .greater
  | ">=" => some .greaterEqual
  | _ => none

def isOrdering : ComparisonOp → Bool
  | .equal | .notEqual => false
  | .less | .lessEqual | .greater | .greaterEqual => true

end ComparisonOp

inductive LogicalOp where
  | and
  | or
  deriving DecidableEq, Inhabited

namespace LogicalOp

def ofToken? : String → Option LogicalOp
  | "&&" => some .and
  | "||" => some .or
  | _ => none

end LogicalOp

inductive UnaryOp where
  | negate
  | not
  | bitwiseNot
  deriving DecidableEq, Inhabited

namespace UnaryOp

def ofToken? : String → Option UnaryOp
  | "-" => some .negate
  | "!" => some .not
  | "~" => some .bitwiseNot
  | _ => none

end UnaryOp

/-- Plain assignment, or an assignment that first combines the target with the value. -/
inductive AssignmentOp where
  | assign
  | arithmetic (op : ArithmeticOp)
  | bitwise (op : BitwiseOp)
  deriving DecidableEq, Inhabited

namespace AssignmentOp

/-- A combining assignment is written as its operator followed by `=`. -/
def ofToken? (token : String) : Option AssignmentOp :=
  if token = "=" then some .assign
  else if token.toList.getLast? = some '=' then
    let operator := String.ofList token.toList.dropLast
    match ArithmeticOp.ofToken? operator with
    | some op => some (.arithmetic op)
    | none => (BitwiseOp.ofToken? operator).map .bitwise
  else none

end AssignmentOp

inductive StepOp where
  | increment
  | decrement
  deriving DecidableEq, Inhabited

namespace StepOp

def ofToken? : String → Option StepOp
  | "++" => some .increment
  | "--" => some .decrement
  | _ => none

end StepOp

inductive BinaryOp where
  | arithmetic (op : ArithmeticOp)
  | bitwise (op : BitwiseOp)
  | comparison (op : ComparisonOp)
  | logical (op : LogicalOp)
  deriving DecidableEq, Inhabited

end ShaderCheck
