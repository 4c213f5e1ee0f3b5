import ShaderCheck.Number.Decimal

/-!
The shortest decimal that reads back as a double, and its text.

A double stands for every real number that rounds to it: an interval around its value. On the grid of
multiples of `10 ^ p` only the two neighbours of the value can be the nearest grid points in that
interval, so the coarsest grid with a neighbour inside gives the fewest digits.
-/

namespace ShaderCheck.Double

/-- The interval of reals that round to `m * 2 ^ q`, in units of `2 ^ (q - 2)`: its lower end, the value
and its upper end. Below a power of two the doubles lie closer together. -/
def interval (m : Nat) (q : Int) : Nat × Nat × Nat :=
  let gap := if m == Nat.pow 2 52 && q > -1074 then 1 else 2
  (4 * m - gap, 4 * m, 4 * m + 2)

/-- The multiplier `c` of the best multiple of `10 ^ p` that rounds to `m * 2 ^ q`, if there is one. Of
two candidates the nearer wins and a tie goes up. The ends of the interval belong to it when the
significand is even. -/
def candidate? (m : Nat) (q p : Int) : Option Nat :=
  let grid := Nat.pow 10 p.toNat * Nat.pow 2 (2 - q).toNat
  let unit := Nat.pow 2 (q - 2).toNat * Nat.pow 10 (-p).toNat
  let (low, value, high) := interval m q
  let inside (c : Nat) : Bool :=
    if m % 2 == 0 then low * unit ≤ c * grid && c * grid ≤ high * unit
    else low * unit < c * grid && c * grid < high * unit
  let below := value * unit / grid
  let closerAbove := 2 * (value * unit - below * grid) ≥ grid
  match inside below, inside (below + 1) with
  | true, true => some (if closerAbove then below + 1 else below)
  | true, false => some below
  | false, true => some (below + 1)
  | false, false => none

def searchGrids (m : Nat) (q : Int) : Nat → Int → Option Decimal
  | 0, _ => none
  | steps + 1, p =>
    match candidate? m q p with
    | some c => some ⟨c, p⟩
    | none => searchGrids m q steps (p - 1)

/-- The shortest decimal that rounds to the magnitude of a finite double. No double needs a grid coarser
than `10 ^ 309` or finer than `10 ^ -342`. -/
def shortest (x : Double) : Decimal :=
  let (m, q) := x.parts
  if m = 0 then ⟨0, 0⟩ else (searchGrids m q 652 309).getD ⟨0, 0⟩

def positional (d : Decimal) : String :=
  let digits := Nat.toDigits 10 d.significand
  if d.exponent ≥ 0 then
    String.ofList (digits ++ List.replicate d.exponent.toNat '0')
  else
    let places := d.exponent.natAbs
    let padded := List.replicate (places + 1 - digits.length) '0' ++ digits
    let whole := padded.take (padded.length - places)
    let fraction := padded.drop (padded.length - places)
    String.ofList (whole ++ '.' :: fraction)

def text (x : Double) : String :=
  if x.isNaN then "NaN"
  else
    let magnitude := if x.isInfinite then "inf"
      else
        let d := x.shortest
        if d.significand = 0 then "0" else positional d
    if x.isNegative then "-" ++ magnitude else magnitude

end ShaderCheck.Double
