import ShaderCheck.Number.Decimal

/-!
Decimals that are computed in doubles: a significand of one word, times a power of ten.

Both factors are rounded before they are multiplied and the product is rounded again, so close to the largest
double a decimal may overflow although the double nearest to it is finite, and the other way round.
-/

namespace ShaderCheck

namespace Double

/-- The product of two numbers: all its bits are kept until it is rounded once. An infinite factor counts as the
power of two behind the largest double. -/
def times (x y : Double) : Double :=
  let (m, p) := x.parts
  let (n, q) := y.parts
  let magnitude :=
    if m * n = 0 then 0 else nearestRatio (m * n * Nat.pow 2 (p + q).toNat) (Nat.pow 2 (-(p + q)).toNat)
  ofMagnitude (x.isNegative != y.isNegative) magnitude

end Double

namespace Decimal

/-- Leaves off last digits until the significand fits a word of 64 bits. A digit that is left off still
counts as a place. -/
def shorten (significand : Nat) (exponent : Int) : Decimal :=
  if significand < UInt64.size then ⟨significand, exponent⟩ else shorten (significand / 10) (exponent + 1)
termination_by significand
decreasing_by
  have positive : 0 < UInt64.size := by decide
  omega

def scaled (d : Decimal) : Double :=
  let short := shorten d.significand d.exponent
  (Double.nearest false short.significand 0).times (Double.nearest false 1 short.exponent)

end Decimal

end ShaderCheck
