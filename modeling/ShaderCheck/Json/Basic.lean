import ShaderCheck.Number.Scaled

/-!
JSON values. Numbers keep how they were written, because a whole number is told from one with a point or
an exponent, and the order of an object's fields is kept with them.
-/

namespace ShaderCheck

/-- A number of a JSON text: its sign, its size, and whether it was written as a whole number. -/
structure Numeral where
  negative : Bool
  size : Decimal
  whole : Bool
  deriving DecidableEq, Inhabited

namespace Numeral

def ofNat (n : Nat) : Numeral := ⟨false, ⟨n, 0⟩, true⟩

/-- The natural number that is written. A sign, a point or an exponent make it something else. -/
def toNat? (n : Numeral) : Option Nat :=
  if n.whole && !n.negative then some n.size.significand else none

/-- Whether the number stays within the range of doubles when it is computed in them. -/
def isFinite (n : Numeral) : Bool := !n.size.scaled.isInfinite

end Numeral

inductive Json where
  | null
  | bool (value : Bool)
  | number (value : Numeral)
  | string (value : String)
  | array (items : List Json)
  | object (fields : List (String × Json))
  deriving Inhabited

namespace Json

mutual

def depth : Json → Nat
  | .array items => depthOfItems items + 1
  | .object fields => depthOfFields fields + 1
  | _ => 0
termination_by structural json => json

def depthOfItems : List Json → Nat
  | [] => 0
  | item :: rest => max (depth item) (depthOfItems rest)
termination_by structural items => items

def depthOfFields : List (String × Json) → Nat
  | [] => 0
  | (_, value) :: rest => max (depth value) (depthOfFields rest)
termination_by structural fields => fields

end

end Json

end ShaderCheck
