import ScenarioSteps.Toml.Document
import ScenarioSteps.Toml.Quoted

/-!
# `ScenarioSteps.Toml.Number`: numbers, dates and times in a document

Integers are written in base ten with an optional sign, or in base 16, 8 or 2
behind `0x`, `0o` or `0b`, and fit in 64 bits. Digits may be grouped by single
underscores, and only a number below ten may begin with a zero. A real number
has digits behind a point, an exponent or both, or is one of the names `inf`
and `nan`.

Dates and times are only checked, since no setting is one.

The functions here take text off the front of a list of characters and return
what is left of it. Nothing they read spans lines.
-/

set_option autoImplicit false

namespace ScenarioSteps.Toml

/-! ### Dates and times -/

/-- Takes two digits that write a number of a range. -/
def twoDigits (least most : Nat) : List Char → Option (Nat × List Char)
  | a :: b :: rest =>
    let n := Text.ofDigits [a, b]
    if a.isDigit && b.isDigit && least ≤ n && n ≤ most then some (n, rest) else none
  | _ => none

/-- Takes one particular character. -/
def oneOf (choices : List Char) : List Char → Option (List Char)
  | c :: rest => if choices.contains c then some rest else none
  | [] => none

/-- The number of days of a month. -/
def daysOf (year month : Nat) : Nat :=
  if month == 2 then
    if year % 4 == 0 && (year % 100 != 0 || year % 400 == 0) then 29 else 28
  else if [4, 6, 9, 11].contains month then 30
  else 31

/-- Takes a day of the calendar: what is left behind it. -/
def takeDate (cs : List Char) : Option (List Char) := do
  let year := cs.take 4
  let rest ← oneOf ['-'] (cs.drop 4)
  let (month, rest) ← twoDigits 1 12 rest
  let rest ← oneOf ['-'] rest
  let (_, rest) ← twoDigits 1 (daysOf (Text.ofDigits year) month) rest
  return rest

/-- Takes a time of day: what is left behind it. -/
def takeTime (cs : List Char) : Option (List Char) := do
  let (_, rest) ← twoDigits 0 23 cs
  let rest ← oneOf [':'] rest
  let (_, rest) ← twoDigits 0 59 rest
  let rest ← oneOf [':'] rest
  let (_, rest) ← twoDigits 0 60 rest
  match rest with
  | '.' :: fraction =>
    let (digits, after) := Text.takeDigits fraction
    return if digits.isEmpty then rest else after
  | _ => return rest

/-- Takes the distance of a time from universal time, if one is given. -/
def takeOffset (cs : List Char) : Option (List Char) :=
  match oneOf ['Z', 'z'] cs, oneOf ['+', '-'] cs with
  | some rest, _ => some rest
  | none, none => some cs
  | none, some rest => do
    let (_, rest) ← twoDigits 0 23 rest
    let rest ← oneOf [':'] rest
    let (_, rest) ← twoDigits 0 59 rest
    return rest

/-- Whether an hour and a colon come next. -/
def timeAhead (cs : List Char) : Bool :=
  match twoDigits 0 23 cs with
  | some (_, ':' :: _) => true
  | _ => false

/-- Whether a year and a hyphen come next. -/
def dateAhead (cs : List Char) : Bool :=
  (Text.takeDigits (cs.take 4)).1.length == 4 && (cs.drop 4).head? == some '-'

/-- Takes a date with an optional time, or a time. -/
def takeMoment (cs : List Char) : Option (List Char) :=
  if dateAhead cs then do
    let day ← takeDate cs
    match oneOf ['T', 't', ' '] day with
    | some rest => if timeAhead rest then takeOffset (← takeTime rest) else return day
    | none => return day
  else takeTime cs

/-! ### Numbers -/

/-- Takes digits that satisfy `p`, behind a digit. An underscore must have a
digit behind it too. -/
def moreDigits (p : Char → Bool) : List Char → Option (List Char × List Char)
  | [] => some ([], [])
  | '_' :: c :: rest =>
    if p c then (moreDigits p rest).map fun (digits, rest) => (c :: digits, rest) else none
  | ['_'] => none
  | c :: rest =>
    if p c then (moreDigits p rest).map fun (digits, rest) => (c :: digits, rest)
    else some ([], c :: rest)

/-- Takes digits that satisfy `p`, at least one. -/
def someDigits (p : Char → Bool) : List Char → Option (List Char × List Char)
  | c :: rest =>
    if p c then (moreDigits p rest).map fun (digits, rest) => (c :: digits, rest) else none
  | [] => none

/-- Takes digits without a zero in front of others. -/
def wholeDigits : List Char → Option (List Char × List Char)
  | '0' :: rest => some (['0'], rest)
  | cs => someDigits Char.isDigit cs

/-- Takes a point and digits, if a point comes next. -/
def takeFraction : List Char → Option (List Char × List Char)
  | '.' :: rest => (someDigits Char.isDigit rest).map fun (digits, rest) => ('.' :: digits, rest)
  | cs => some ([], cs)

/-- Takes an exponent, if its letter comes next. -/
def takeExponent (cs : List Char) : Option (List Char × List Char) :=
  match oneOf ['e', 'E'] cs with
  | none => some ([], cs)
  | some rest => do
    let (negative, rest) := Text.takeSign rest
    let (digits, rest) ← someDigits Char.isDigit rest
    return ((if negative then ['e', '-'] else ['e']) ++ digits, rest)

/-- An integer, if it fits in 64 bits. -/
def boundedInteger? (n : Int) : Option Scalar :=
  let limit : Int := Text.twoTo 63
  if -limit ≤ n && n < limit then some (.integer n) else none

/-- Takes a number in base ten. A real number may not lie above all finite
ones. -/
def takeDecimal (negative : Bool) (cs : List Char) : Option (Scalar × List Char) := do
  let (whole, rest) ← wholeDigits cs
  let (fraction, rest) ← takeFraction rest
  let (exponent, rest) ← takeExponent rest
  if fraction.isEmpty && exponent.isEmpty then
    let n : Int := Text.ofDigits whole
    return (← boundedInteger? (if negative then -n else n), rest)
  else
    let n ← Text.numeral? (whole ++ fraction ++ exponent)
    if n.isFinite || negative then return (.real (.numeral { n with negative }), rest)
    else none

/-- Takes an integer of another base behind its mark. -/
def takeRadix (base : Nat) (cs : List Char) : Option (Scalar × List Char) := do
  let (digits, rest) ← someDigits (fun c => (Text.hexDigit? c).any (· < base)) cs
  let n := digits.foldl (fun n c => base * n + (Text.hexDigit? c).getD 0) 0
  return (← boundedInteger? n, rest)

/-- Takes a number with an optional sign. -/
def takeSigned (cs : List Char) : Option (Scalar × List Char) :=
  match Text.takeSign cs with
  | (negative, 'i' :: 'n' :: 'f' :: rest) => some (.real (.infinity negative), rest)
  | (_, 'n' :: 'a' :: 'n' :: rest) => some (.real .notANumber, rest)
  | (negative, rest) => takeDecimal negative rest

/-- Takes a number, a date or a time. -/
def takeNumber (cs : List Char) : Option (Scalar × List Char) :=
  match cs with
  | '0' :: 'x' :: rest => takeRadix 16 rest
  | '0' :: 'o' :: rest => takeRadix 8 rest
  | '0' :: 'b' :: rest => takeRadix 2 rest
  | _ =>
    if dateAhead cs || timeAhead cs then (takeMoment cs).map (.moment, ·)
    else takeSigned cs

/-- Takes a number, a date or a time, none of which spans lines. -/
def Scan.number : Scan Scalar := do
  match takeNumber (← Scan.rest) with
  | some (value, rest) =>
    modify fun c => { c with rest }
    return value
  | none => fail

end ScenarioSteps.Toml
