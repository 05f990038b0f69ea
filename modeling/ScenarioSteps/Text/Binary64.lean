import ScenarioSteps.Text.Decimal

/-!
# `ScenarioSteps.Text.Binary64`: the text of a number in binary floating point

A decimal numeral stands for the nearest number of 64-bit binary floating
point, and that number is written with the fewest digits that lead back to it.

All finite magnitudes of the format are multiples of the least one,
`2 ^ (-1074)`, so a magnitude is a natural number of such units
(`nearestUnits`). Every comparison is one of natural numbers: a decimal
`c * 10 ^ k` leads back to a magnitude when it lies in the interval that
rounds to it (`leadsBack`), whose ends count when the significand is even.

The text is positional for all exponents and always has a point.
-/

set_option autoImplicit false

namespace ScenarioSteps.Text

/-- The quotient `n / d`, rounded to the nearest integer; a tie goes to the
even neighbour. -/
def roundHalfEven (n d : Nat) : Nat :=
  let q := n / d
  let twice := 2 * (n % d)
  if twice < d then q
  else if d < twice then q + 1
  else q + q % 2

/-- How many bits of a magnitude in units lie behind its 53 significant ones. -/
def spareBits (units : Nat) : Nat :=
  Nat.log2 units - 52

/-- The finite magnitude next to `n / d`, in units of `2 ^ (-1074)`. -/
def nearestUnits (n d : Nat) : Nat :=
  let scaled := n * twoTo 1074
  let step := twoTo (spareBits (scaled / d))
  roundHalfEven scaled (d * step) * step

/-- The magnitude of a numeral in units of `2 ^ (-1074)`. Numerals far below
the least magnitude are zero without a large power being computed. -/
def Numeral.units (n : Numeral) : Nat :=
  let magnitude : Int := (Nat.toDigits 10 n.digits).length + n.scale
  if n.digits == 0 || magnitude < -330 then 0
  else if 0 ≤ n.scale then nearestUnits (n.digits * tenTo n.scale.toNat) 1
  else nearestUnits n.digits (tenTo (-n.scale).toNat)

/-- The decimal `c * 10 ^ k` in quarters of a unit, as a quotient. -/
def quarters (c : Nat) (k : Int) : Nat × Nat :=
  (c * tenTo k.toNat * twoTo 1076, tenTo (-k).toNat)

/-- Whether the decimal `c * 10 ^ k` rounds to a magnitude. Below a power of
two the numbers are twice as dense. -/
def leadsBack (units c : Nat) (k : Int) : Bool :=
  let step := twoTo (spareBits units)
  let low := 4 * units - if units == twoTo 52 * step && 1 < step then step else 2 * step
  let high := 4 * units + 2 * step
  let (n, d) := quarters c k
  if units / step % 2 == 0 then low * d ≤ n && n ≤ high * d
  else low * d < n && n < high * d

/-- The greatest multiple of `10 ^ k` that is not above a magnitude. -/
def floorAt (units : Nat) (k : Int) : Nat :=
  units * tenTo (-k).toNat / (twoTo 1074 * tenTo k.toNat)

/-- The position of the leading digit of a magnitude: the least `e` with the
magnitude below `10 ^ e`. -/
def leadingPosition (units : Nat) : Int :=
  let guess : Int :=
    (Nat.toDigits 10 units).length - (Nat.toDigits 10 (twoTo 1074)).length
  if 1 ≤ floorAt units guess then guess + 1 else guess

/-- Of the two multiples of `10 ^ k` around a magnitude, the nearer one that
leads back to it; of two that are equally near, the greater. -/
def gridPoint? (units : Nat) (k : Int) : Option Nat :=
  let c := floorAt units k
  let (below, d) := quarters c k
  let (above, _) := quarters (c + 1) k
  let upper := above + below ≤ 8 * units * d
  match leadsBack units c k, leadsBack units (c + 1) k with
  | true, true => some (if upper then c + 1 else c)
  | true, false => some c
  | false, true => some (c + 1)
  | false, false => none

/-- The shortest decimal that leads back to a magnitude, as `c * 10 ^ k`. It
is looked for on finer and finer grids, the first of which has the power of
ten above the magnitude; seventeen digits always suffice. -/
def shortest (units : Nat) : Nat × Int :=
  let top := leadingPosition units
  let grids : List Int := (List.range 18).map fun (n : Nat) => top - (n : Int)
  match grids.findSome? fun k => (gridPoint? units k).map (·, k) with
  | some decimal => decimal
  | none => (floorAt units (top - 17), top - 17)

/-- The decimal `c * 10 ^ k` without an exponent; it always has a point. -/
def positional (c : Nat) (k : Int) : List Char :=
  let digits := Nat.toDigits 10 c
  if 0 ≤ k then digits ++ List.replicate k.toNat '0' ++ ['.', '0']
  else
    let places := (-k).toNat
    let padded := List.replicate (places + 1 - digits.length) '0' ++ digits
    let whole := padded.length - places
    padded.take whole ++ '.' :: padded.drop whole

/-- The text of the number nearest to a numeral; `inf` beyond all numbers. -/
def Numeral.shown (n : Numeral) : String :=
  let sign := if n.negative then "-" else ""
  if !n.isFinite then sign ++ "inf"
  else if n.units == 0 then sign ++ "0.0"
  else
    let (c, k) := shortest n.units
    sign ++ String.ofList (positional c k)

end ScenarioSteps.Text
