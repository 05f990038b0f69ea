/-!
# `ScenarioSteps.Text.Utf8`: the bytes of characters

UTF-8 writes a code point in one to four bytes. An interval of code points is
written by a union of *byte patterns*: a byte pattern is a list of intervals
of bytes, and it stands for all ways to choose one byte from each of them.

An interval is cut where the number of bytes changes. It is also cut where
the bytes behind a leading byte do not run through all their values, until
each piece is a byte pattern of its own. Single bytes need no further cut.
-/

set_option autoImplicit false

namespace ScenarioSteps.Text

/-- The bytes of a code point. -/
def utf8 (n : Nat) : List Nat :=
  let tail := fun (shift : Nat) => 0x80 + n / shift % 64
  if n < 0x80 then [n]
  else if n < 0x800 then [0xc0 + n / 64, tail 1]
  else if n < 0x10000 then [0xe0 + n / 4096, tail 64, tail 1]
  else [0xf0 + n / 262144, tail 4096, tail 64, tail 1]

/-- A list of closed intervals of bytes. -/
abbrev BytePattern :=
  List (Nat × Nat)

/-- The last code point of the first piece if an interval is no byte pattern. -/
def utf8Cut? (lo hi : Nat) : Option Nat :=
  let byLength := [0x7f, 0x7ff, 0xffff].find? fun last => lo ≤ last && last < hi
  let byBlock := [64, 4096, 262144].findSome? fun size =>
    if lo < 0x80 || lo / size == hi / size then none
    else if lo % size != 0 then some (lo / size * size + (size - 1))
    else if hi % size != size - 1 then some (hi / size * size - 1)
    else none
  byLength <|> byBlock

/-- The byte patterns of an interval of code points, in ascending order. Cuts
are nested in each other at most three times for the lengths and twice for
each size of block, so `fuel` can be ten. -/
def utf8Patterns : Nat → Nat → Nat → List BytePattern
  | 0, lo, hi => [(utf8 lo).zip (utf8 hi)]
  | fuel + 1, lo, hi =>
    match utf8Cut? lo hi with
    | some last => utf8Patterns fuel lo last ++ utf8Patterns fuel (last + 1) hi
    | none => [(utf8 lo).zip (utf8 hi)]

/-- The byte patterns of a list of intervals of code points. -/
def bytePatterns (intervals : List (Nat × Nat)) : List BytePattern :=
  intervals.flatMap fun i => utf8Patterns 10 i.1 i.2

end ScenarioSteps.Text
