import ShaderCheck.Number.Double

/-!
Decimal numerals: whole digits, an optional point with digits after it, an optional exponent.
-/

namespace ShaderCheck

def digitValue? (base : Nat) (c : Char) : Option Nat :=
  let value? : Option Nat :=
    if '0' ≤ c ∧ c ≤ '9' then some (c.toNat - '0'.toNat)
    else if 'a' ≤ c ∧ c ≤ 'f' then some (c.toNat - 'a'.toNat + 10)
    else if 'A' ≤ c ∧ c ≤ 'F' then some (c.toNat - 'A'.toNat + 10)
    else none
  value?.filter (· < base)

def isDecimalDigit (c : Char) : Bool := (digitValue? 10 c).isSome

/-- The number a list of digits denotes, starting from what came before it. A character that is no
digit of the base gives none. -/
def digitsValue? (base : Nat) (digits : List Char) : Option Nat :=
  digits.foldlM (fun value c => (digitValue? base c).map (value * base + ·)) 0

/-- A number `significand * 10 ^ exponent`. -/
structure Decimal where
  significand : Nat
  exponent : Int
  deriving DecidableEq, Inhabited

namespace Decimal

def exponent? : List Char → Option Int
  | '-' :: digits => if digits.isEmpty then none else (digitsValue? 10 digits).map fun n => -(n : Int)
  | '+' :: digits => if digits.isEmpty then none else (digitsValue? 10 digits).map fun n => (n : Int)
  | digits => if digits.isEmpty then none else (digitsValue? 10 digits).map fun n => (n : Int)

def tail? : List Char → Option Int
  | [] => some 0
  | mark :: rest => if mark = 'e' ∨ mark = 'E' then exponent? rest else none

/-- An unsigned numeral. Digits may be missing on one side of the point, not on both. -/
def ofChars? (chars : List Char) : Option Decimal := do
  let whole := chars.takeWhile isDecimalDigit
  let rest := chars.dropWhile isDecimalDigit
  let (fraction, rest) := match rest with
    | '.' :: rest => (rest.takeWhile isDecimalDigit, rest.dropWhile isDecimalDigit)
    | rest => ([], rest)
  if whole.isEmpty && fraction.isEmpty then none
  else
    let significand ← digitsValue? 10 (whole ++ fraction)
    let exponent ← tail? rest
    some ⟨significand, exponent - fraction.length⟩

def toDouble (d : Decimal) : Double := Double.nearest false d.significand d.exponent

end Decimal

end ShaderCheck
