import ShaderCheck.Constant

/-!
Literals: the words `true` and `false`, quoted strings, and numbers.

A number ends with an optional suffix for its kind: `i` and `u` for whole numbers, `f` and `h` for floats. Without
one it is abstract. Hexadecimal digits include `f`, so a hexadecimal number takes only the whole number
suffixes.
-/

namespace ShaderCheck.Literal

def signed? (base : Nat) : List Char → Option Int
  | [] => none
  | '-' :: digits => if digits.isEmpty then none else (digitsValue? base digits).map fun n => -(n : Int)
  | '+' :: digits => if digits.isEmpty then none else (digitsValue? base digits).map fun n => (n : Int)
  | digits => (digitsValue? base digits).map fun n => (n : Int)

def splitSuffix (chars : List Char) : List Char × NumericKind :=
  match chars.getLast? with
  | some 'i' => (chars.dropLast, .i32)
  | some 'u' => (chars.dropLast, .u32)
  | _ => (chars, .abstractInt)

def fits (kind : NumericKind) (value : Int) : Bool :=
  match kind with
  | .i32 => -0x80000000 ≤ value && value < 0x80000000
  | .u32 => 0 ≤ value && value < 0x100000000
  | _ => -0x8000000000000000 ≤ value && value < 0x8000000000000000

def integer? (base : Nat) (chars : List Char) : Option (Constant × Ty) := do
  let (digits, kind) := splitSuffix chars
  let value ← signed? base digits
  if fits kind value then some (.integer (Int64.ofInt value), .numeric kind) else none

/-- A float of the given kind. It starts with a digit or its point, never with a sign or a word. -/
def float? (kind : NumericKind) (chars : List Char) : Option (Constant × Ty) := do
  let decimal ← Decimal.ofChars? chars
  some (.float decimal.toDouble, .numeric kind)

def hasFloatMark (chars : List Char) : Bool :=
  chars.any fun c => c = '.' || c = 'e' || c = 'E'

def number? (chars : List Char) : Option (Constant × Ty) :=
  match chars.getLast? with
  | none => none
  | some 'f' => float? .f32 chars.dropLast
  | some 'h' => float? .f16 chars.dropLast
  | some last =>
    if last = 'i' ∨ last = 'u' then
      if hasFloatMark chars.dropLast then none else integer? 10 chars
    else if hasFloatMark chars then float? .abstractFloat chars
    else integer? 10 chars

def quoted? : List Char → Option (List Char)
  | '"' :: rest => if rest.getLast? = some '"' then some rest.dropLast else none
  | _ => none

def read? (text : String) : Option (Constant × Ty) :=
  if text = "true" then some (.boolean true, .bool)
  else if text = "false" then some (.boolean false, .bool)
  else
    match quoted? text.toList with
    | some inner => some (.string (String.ofList inner), .string)
    | none =>
      match text.toList with
      | '0' :: 'x' :: digits => integer? 16 digits
      | '0' :: 'X' :: digits => integer? 16 digits
      | chars => number? chars

end ShaderCheck.Literal
