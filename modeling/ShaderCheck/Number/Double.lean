/-!
Double precision numbers as the words that store them, and the double nearest to a decimal.

A double is a sign and a magnitude. Read as a number, the lower 63 bits of the word grow with the
magnitude, which is what makes rounding a single addition: a significand that rounds up past its
last value carries into the exponent, and past the last exponent into infinity.
-/

namespace ShaderCheck

structure Double where
  bits : UInt64
  deriving DecidableEq, Inhabited

namespace Double

/-- The word of positive infinity, and the first one that is not a finite magnitude. -/
def infinityBits : Nat := 0x7ff * Nat.pow 2 52

def isNegative (x : Double) : Bool := x.bits.toNat ≥ Nat.pow 2 63

def magnitude (x : Double) : Nat := x.bits.toNat % Nat.pow 2 63

def isInfinite (x : Double) : Bool := x.magnitude == infinityBits

def isNaN (x : Double) : Bool := x.magnitude > infinityBits

def negate (x : Double) : Double := ⟨x.bits ^^^ 0x8000000000000000⟩

def ofMagnitude (negative : Bool) (magnitude : Nat) : Double :=
  ⟨UInt64.ofNat (if negative then magnitude + Nat.pow 2 63 else magnitude)⟩

/-- The significand `m` and exponent `q` of a finite magnitude, which is `m * 2 ^ q`. -/
def parts (x : Double) : Nat × Int :=
  let exponent : Nat := x.magnitude / Nat.pow 2 52
  let fraction : Nat := x.magnitude % Nat.pow 2 52
  if exponent = 0 then (fraction, -1074) else (fraction + Nat.pow 2 52, (exponent : Int) - 1075)

/-- The quotient rounded to the nearest whole number, a half to the even neighbour. -/
def roundDiv (numerator denominator : Nat) : Nat :=
  let quotient := numerator / denominator
  let twice := 2 * (numerator % denominator)
  if twice > denominator || (twice == denominator && quotient % 2 == 1) then quotient + 1
  else quotient

/-- The largest `e` with `2 ^ e ≤ numerator / denominator`, for a positive ratio. -/
def binaryExponent (numerator denominator : Nat) : Int :=
  let guess := (numerator.log2 : Int) - denominator.log2
  if numerator * Nat.pow 2 (-guess).toNat < denominator * Nat.pow 2 guess.toNat then guess - 1 else guess

def nearestRatio (numerator denominator : Nat) : Nat :=
  let q := max (-1074) (binaryExponent numerator denominator - 52)
  let m := roundDiv (numerator * Nat.pow 2 (-q).toNat) (denominator * Nat.pow 2 q.toNat)
  min infinityBits ((q + 1074).toNat * Nat.pow 2 52 + m)

/-- The magnitude word nearest to `significand * 10 ^ exponent`. The two outer cases decide what lies
far outside the range of doubles without writing the power out. -/
def nearestMagnitude (significand : Nat) (exponent : Int) : Nat :=
  if significand = 0 then 0
  else if exponent > 400 then infinityBits
  else if exponent + significand.log2 < -1200 then 0
  else nearestRatio (significand * Nat.pow 10 exponent.toNat) (Nat.pow 10 (-exponent).toNat)

def nearest (negative : Bool) (significand : Nat) (exponent : Int) : Double :=
  ofMagnitude negative (nearestMagnitude significand exponent)

end Double

end ShaderCheck
