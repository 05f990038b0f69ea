/-!
# `ScenarioSteps.Text.Decimal`: decimal numerals

A numeral is an optional sign, digits with an optional point among, before or
behind them, and an optional exponent. At least one digit stands before the
exponent. A numeral denotes `digits * 10 ^ scale`, up to its sign.

`Numeral.isFinite` says whether a numeral has a nearest finite number in
binary floating point of 64 bits. The largest such number is
`2 ^ 1024 - 2 ^ 971`, and all values below the midpoint between it and
`2 ^ 1024` round to a finite number. The test never computes a power larger
than a few hundred digits more than the numeral itself has.
-/

set_option autoImplicit false

namespace ScenarioSteps.Text

/-- What a numeral denotes: `± digits * 10 ^ scale`. -/
structure Numeral where
  negative : Bool
  digits : Nat
  scale : Int
deriving Repr, DecidableEq

/-- The value of an ASCII digit. -/
def digitValue (c : Char) : Nat :=
  c.toNat - '0'.toNat

/-- The number that a list of ASCII digits writes. -/
def ofDigits (cs : List Char) : Nat :=
  cs.foldl (fun n c => 10 * n + digitValue c) 0

/-- Takes an optional sign off the front; `true` is a minus. -/
def takeSign : List Char → Bool × List Char
  | '-' :: rest => (true, rest)
  | '+' :: rest => (false, rest)
  | cs => (false, cs)

/-- Takes the digits off the front. -/
def takeDigits (cs : List Char) : List Char × List Char :=
  (cs.takeWhile Char.isDigit, cs.dropWhile Char.isDigit)

/-- Reads what follows the digits of a numeral: nothing, or an exponent. -/
def exponent? : List Char → Option Int
  | [] => some 0
  | c :: rest =>
    if c == 'e' || c == 'E' then
      let (negative, rest) := takeSign rest
      let (digits, rest) := takeDigits rest
      if digits.isEmpty || !rest.isEmpty then none
      else
        let n : Int := ofDigits digits
        some (if negative then -n else n)
    else none

/-- Reads a numeral that is the whole text. -/
def numeral? (cs : List Char) : Option Numeral :=
  let (negative, rest) := takeSign cs
  let (whole, rest) := takeDigits rest
  let (fraction, rest) :=
    match rest with
    | '.' :: rest => takeDigits rest
    | rest => ([], rest)
  if whole.isEmpty && fraction.isEmpty then none
  else
    (exponent? rest).map fun e =>
      ⟨negative, ofDigits (whole ++ fraction), e - fraction.length⟩

/-- A power of two. -/
def twoTo (k : Nat) : Nat :=
  Nat.pow 2 k

/-- A power of ten. -/
def tenTo (k : Nat) : Nat :=
  Nat.pow 10 k

/-- The least value that rounds beyond the finite numbers. -/
def overflowBound : Nat :=
  twoTo 1024 - twoTo 970

/-- Whether a numeral rounds to a finite number in 64 bits. -/
def Numeral.isFinite (n : Numeral) : Bool :=
  let magnitude : Int := (Nat.toDigits 10 n.digits).length + n.scale
  if n.digits == 0 || magnitude < 300 then true
  else if 320 < magnitude then false
  else if 0 ≤ n.scale then n.digits * tenTo n.scale.toNat < overflowBound
  else n.digits < overflowBound * tenTo (-n.scale).toNat

end ScenarioSteps.Text
