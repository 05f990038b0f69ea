import ScenarioSteps.Text.Decimal

/-!
# `ScenarioSteps.Toml.Cursor`: a place in a document that is being read

A scan takes text off the front of what is left of a document, or fails on
the line where the document goes wrong. That is the line of the first
character that no continuation of the document could have, except that a key
that is defined twice is reported where its definition starts.
-/

set_option autoImplicit false

namespace ScenarioSteps.Toml

/-- What is wrong with a document. -/
inductive Flaw where
  | unexpected
  | redefined
deriving Repr, DecidableEq

/-- A flaw in words. -/
def Flaw.message : Flaw → String
  | .unexpected => "malformed document"
  | .redefined => "duplicate key"

/-- A flaw, and the line where it was found. -/
structure Malformed where
  flaw : Flaw
  line : Nat
deriving Repr, DecidableEq

/-- What is left of a document, and the line on which that begins. -/
structure Cursor where
  rest : List Char
  line : Nat := 1
deriving Repr, DecidableEq

/-- A step of reading. -/
abbrev Scan := StateT Cursor (Except Malformed)

namespace Scan

/-- What is left. -/
def rest : Scan (List Char) :=
  return (← get).rest

/-- The line of the next character. -/
def line : Scan Nat :=
  return (← get).line

/-- Fails at the next character. -/
def fail {α : Type} : Scan α := do
  throw ⟨.unexpected, ← line⟩

/-- Takes characters of one line. -/
def skip (n : Nat) : Scan Unit :=
  modify fun c => { c with rest := c.rest.drop n }

/-- Takes the end of a line. -/
def skipLine (n : Nat) : Scan Unit :=
  modify fun c => ⟨c.rest.drop n, c.line + 1⟩

/-- Takes one particular character if it comes next. -/
def accept (c : Char) : Scan Bool := do
  if (← rest).head? == some c then
    skip 1
    return true
  else return false

/-- Takes one particular character, which must come next. -/
def expect (c : Char) : Scan Unit := do
  unless ← accept c do fail

/-- Takes a text within one line, which must come next. -/
def expectText (text : List Char) : Scan Unit := do
  if text.isPrefixOf (← rest) then skip text.length else fail

/-- Takes characters of one line while they satisfy `p`. -/
def takeWhile (p : Char → Bool) : Scan (List Char) := do
  let taken := (← rest).takeWhile p
  skip taken.length
  return taken

/-- Takes a line feed, or a carriage return with a line feed, if it comes next. -/
def newline : Scan Bool := do
  match ← rest with
  | '\n' :: _ => skipLine 1; return true
  | '\r' :: '\n' :: _ => skipLine 2; return true
  | _ => return false

end Scan

/-- The blanks within a line. -/
def isGap (c : Char) : Bool :=
  c == ' ' || c == '\t'

/-- The characters of a line that are not controls. -/
def isPlain (c : Char) : Bool :=
  c == '\t' || (0x20 ≤ c.toNat && c.toNat ≠ 0x7F)

namespace Scan

/-- Takes blanks within a line. -/
def gap : Scan Unit := do
  let _ ← takeWhile isGap

/-- Takes a comment if one comes next. -/
def comment : Scan Unit := do
  if (← rest).head? == some '#' then
    let _ ← takeWhile isPlain

/-- Takes what may follow a statement: blanks, a comment, the end of the line. -/
def statementEnd : Scan Unit := do
  gap
  comment
  unless (← rest).isEmpty || (← newline) do fail

/-- Takes blanks, comments and ends of lines. Answers whether this came to a
proper end: each comment ends with its line, and a carriage return comes with
a line feed. -/
def spread : Nat → Scan Bool
  | 0 => return false
  | fuel + 1 => do
    gap
    let commented := (← rest).head? == some '#'
    comment
    if ← newline then spread fuel
    else return !commented && (← rest).head? != some '\r'

/-- Takes blanks and ends of lines. -/
def blankLines : Nat → Scan Unit
  | 0 => return
  | fuel + 1 => do
    gap
    if ← newline then blankLines fuel

end Scan

end ScenarioSteps.Toml
